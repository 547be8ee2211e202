import StatusDashboard.Handlers.Component
import StatusDashboard.Process.Monitor

namespace StatusDashboard.Properties

open Storage Tables Handlers Process

/-!
# Components of one name and region

A request that creates a component asks first whether there is one of its name
and region.  The answer is about the moment of the query.  As long as no other
request creates such a component between the query and the insertion, the
answer is still true when the component is inserted.

The feed looks a component up by its name and the value of any attribute, which
agrees with that identity unless a value of another attribute comes first.
-/

variable {row : ComponentRow} {catalog : Catalog}

/-- Two components of the same name in one region. -/
def Clash (first second : ComponentRow) : Prop :=
  first.name = second.name ∧ ∃ region, inRegion first region = true ∧ inRegion second region = true

instance (first second : ComponentRow) : Decidable (Clash first second) :=
  decidable_of_iff (first.name = second.name ∧ ∃ attr ∈ first.attrs,
      attr.name = regionAttrName ∧ inRegion second attr.value = true) (by
    unfold Clash
    refine and_congr_right (fun _ => ?_)
    constructor
    · rintro ⟨attr, member, named, also⟩
      refine ⟨attr.value, ?_, also⟩
      exact List.any_eq_true.mpr ⟨attr, member, by simp [named]⟩
    · rintro ⟨region, one, also⟩
      rcases List.any_eq_true.mp one with ⟨attr, member, equal⟩
      simp only [Bool.and_eq_true, beq_iff_eq] at equal
      exact ⟨attr, member, equal.1, equal.2 ▸ also⟩)

theorem Clash.symm {first second : ComponentRow} (clash : Clash first second) :
    Clash second first := by
  rcases clash with ⟨name, region, one, two⟩
  exact ⟨name.symm, region, two, one⟩

/-- No two components have the same name and region. -/
def UniqueRegions (catalog : Catalog) : Prop :=
  ∀ first second one two, catalog.get? first = some one → catalog.get? second = some two →
    Clash one two → first = second

/-- The component that an operation created. -/
def created (event : Process.Event CatalogOp Catalog) : Option ComponentRow :=
  match event with
  | { operation := .createComponent row, result := .ok _, .. } => some row
  | _ => none

/-- Between its query and its insertion no request sees another one create a
component of its name and region. -/
def Uncontested {ι : Type} [DecidableEq ι] (trace : List (ι × Process.Event CatalogOp Catalog)) :
    Prop :=
  Along (fun seen entry => ∀ row ∈ created entry.2,
    ∀ other ∈ seen.dropWhile (fun earlier => earlier.1 ≠ entry.1),
      ∀ added ∈ created other.2, ¬ Clash added row) trace

instance {ι : Type} [DecidableEq ι] (trace : List (ι × Process.Event CatalogOp Catalog)) :
    Decidable (Uncontested trace) :=
  inferInstanceAs (Decidable (Along _ trace))

/-! ## Operations -/

/-- An operation of the catalog creates a component or changes nothing. -/
theorem catalog_step (choice : Bool) {β : Type} (operation : CatalogOp β) (catalog : Catalog) :
    (created (catalogMachine.event choice operation catalog) = none ∧
        (catalogMachine.perform choice operation catalog).2 = catalog) ∨
      ∃ row, created (catalogMachine.event choice operation catalog) = some row ∧
        (catalogMachine.perform choice operation catalog).2 = catalog.insert row := by
  cases operation with
  | componentExists =>
    refine Or.inl ⟨rfl, ?_⟩
    simp only [catalogMachine]
    split_ifs <;> rfl
  | createComponent row =>
    simp only [created, Machine.event, catalogMachine]
    split_ifs
    · exact Or.inl ⟨rfl, rfl⟩
    · exact Or.inr ⟨row, rfl, rfl⟩
    · exact Or.inl ⟨rfl, rfl⟩

theorem created_createComponent {choice : Bool} {other : ComponentRow}
    (inserted : created (catalogMachine.event choice (.createComponent row) catalog) = some other) :
    row = other ∧ (other.attrs.map ComponentAttr.name).Nodup := by
  simp only [created, Machine.event, catalogMachine] at inserted
  split_ifs at inserted with fault distinct
  cases inserted
  exact ⟨rfl, distinct⟩

/-- With different names there is one region. -/
theorem region_eq {attr : ComponentAttr} {region : String}
    (distinct : (row.attrs.map ComponentAttr.name).Nodup) (member : attr ∈ row.attrs)
    (named : attr.name = regionAttrName) (within : inRegion row region = true) :
    region = attr.value := by
  rcases List.any_eq_true.mp within with ⟨other, listed, equal⟩
  simp only [Bool.and_eq_true, beq_iff_eq] at equal
  have same : other = attr := List.inj_on_of_nodup_map distinct listed member
    (equal.1.trans named.symm)
  exact equal.2.symm.trans (congrArg ComponentAttr.value same)

/-! ## One request -/

/-- A component is created only right after a query that found none like it.  The
memory is the catalogs that the request has met. -/
def asksFirst : Monitor CatalogOp Catalog (List Catalog) where
  allowed met event := ∀ row, created event = some row →
    ∃ asked, met = [asked] ∧ ∀ id other, asked.get? id = some other → ¬ Clash other row
  advance met event := met ++ [event.before]

theorem memory_asksFirst (met : List Catalog) (events : List (Process.Event CatalogOp Catalog)) :
    asksFirst.memory met events = met ++ events.map Process.Event.before := by
  induction events generalizing met with
  | nil => exact (List.append_nil met).symm
  | cons event events ih =>
    change asksFirst.memory (met ++ [event.before]) events = _
    rw [ih, List.append_assoc]
    rfl

/-- What the query rules out is all that can clash. -/
theorem not_clash_of_not_exists {attr : ComponentAttr}
    (distinct : (row.attrs.map ComponentAttr.name).Nodup) (member : attr ∈ row.attrs)
    (named : attr.name = regionAttrName) (absent : catalog.rows.any (fun entry =>
      entry.2.name == row.name && inRegion entry.2 attr.value) = false) (id : Nat)
    (other : ComponentRow) (stored : catalog.get? id = some other) : ¬ Clash other row := by
  rintro ⟨sameName, region, one, two⟩
  rw [region_eq distinct member named two] at one
  have found : catalog.rows.any (fun entry =>
      entry.2.name == row.name && inRegion entry.2 attr.value) = true :=
    List.any_eq_true.mpr ⟨(id, other), SerialTable.mem_rows.mpr stored, by simp [sameName, one]⟩
  exact absurd (absent.symm.trans found) Bool.false_ne_true

theorem saveComponent_obeys (name : String) (attrs : List ComponentAttr) :
    asksFirst.Obeys catalogMachine (fun _ _ => True) (saveComponent name attrs) [] := by
  unfold saveComponent
  cases found : attrs.find? (fun attr => attr.name = regionAttrName) with
  | none => exact trivial
  | some attr =>
    have listed := List.mem_of_find?_eq_some found
    have named : attr.name = regionAttrName := by simpa using List.find?_some found
    intro choice catalog
    refine ⟨fun row inserts => absurd inserts (by simp [created, Machine.event]), ?_⟩
    cases choice with
    | true => exact trivial
    | false =>
      cases taken : catalog.rows.any (fun entry =>
          entry.2.name == name && inRegion entry.2 attr.value) with
      | true =>
        simp only [catalogMachine, taken]
        exact trivial
      | false =>
        simp only [catalogMachine, taken]
        intro again later
        refine ⟨?_, ?_⟩
        · intro row inserted
          obtain ⟨rfl, distinct⟩ := created_createComponent inserted
          exact ⟨catalog, rfl, not_clash_of_not_exists distinct listed named taken⟩
        · generalize (Machine.perform _ again _ later).1 = answer
          cases answer <;> exact trivial

theorem postComponentHandler_obeys (data : PostComponentData) :
    asksFirst.Obeys catalogMachine (fun _ _ => True) (postComponentHandler data) [] := by
  unfold postComponentHandler
  cases data.attributes with
  | none => exact trivial
  | some attrs =>
    dsimp only
    split_ifs
    · exact trivial
    · exact trivial
    · exact (saveComponent_obeys data.name attrs).mapError

/-! ## All requests -/

/-- A component of the catalog was there before or was created on the way. -/
theorem stored_or_created {events : List (Process.Event CatalogOp Catalog)} {final : Catalog}
    (chained : Chained catalog events final)
    (steps : ∀ event ∈ events, ∃ choice, event = catalogMachine.event choice event.operation
      event.before) {id : Nat} (stored : final.get? id = some row) :
    catalog.get? id = some row ∨ ∃ event ∈ events, created event = some row := by
  induction events generalizing catalog with
  | nil =>
    cases chained
    exact Or.inl stored
  | cons event events ih =>
    rcases chained with ⟨start, rest⟩
    rcases ih rest (fun other member => steps other (List.mem_cons_of_mem _ member)) with
      before | ⟨other, member, made⟩
    · rcases steps event List.mem_cons_self with ⟨choice, shape⟩
      have step := catalog_step choice event.operation event.before
      rw [← shape] at step
      have after : event.after = (catalogMachine.perform choice event.operation
          event.before).2 := congrArg Process.Event.after shape
      rw [← after, start] at step
      rcases step with ⟨_, same⟩ | ⟨added, made, inserted⟩
      · rw [same] at before
        exact Or.inl before
      · rw [inserted, SerialTable.get?_insert] at before
        split_ifs at before
        · cases before
          exact Or.inr ⟨event, List.mem_cons_self, made⟩
        · exact Or.inl before
    · exact Or.inr ⟨other, List.mem_cons_of_mem _ member, made⟩

/-- A new component that clashes with none keeps the catalog without clashes. -/
theorem UniqueRegions.insert (unique : UniqueRegions catalog)
    (fits : ∀ id other, catalog.get? id = some other → ¬ Clash other row) :
    UniqueRegions (catalog.insert row) := by
  intro first second one two firstStored secondStored clash
  rw [SerialTable.get?_insert] at firstStored secondStored
  split_ifs at firstStored secondStored with here there there
  · rw [here, there]
  · cases firstStored
    exact absurd clash.symm (fits second two secondStored)
  · cases secondStored
    exact absurd clash (fits first one firstStored)
  · exact unique first second one two firstStored secondStored clash

section Requests

variable {ι : Type} [DecidableEq ι] {requests : ι → PostComponentData}
variable {catalog middle final : Catalog} {party : ι}
variable {trace : List (ι × Process.Event CatalogOp Catalog)}
variable {event : Process.Event CatalogOp Catalog}

/-- What a request may create clashes with nothing that is stored at that moment. -/
theorem fits_of_uncontested
    (interleaving : Interleaving catalogMachine (fun party => postComponentHandler (requests party))
      catalog (trace ++ [(party, event)]) final)
    (uncontested : Uncontested (trace ++ [(party, event)]))
    (chained : Chained catalog (trace.map Prod.snd) middle) (made : created event = some row)
    (id : Nat) (other : ComponentRow) (stored : middle.get? id = some other) :
    ¬ Clash other row := by
  rcases interleaving.walks party with ⟨last, walk⟩
  rw [ownEvents_append, ownEvents_cons_same] at walk
  have allowed := ((postComponentHandler_obeys (requests party)).walk walk).1
    (ownEvents party trace) event [] rfl row made
  rw [memory_asksFirst, List.nil_append] at allowed
  rcases allowed with ⟨asked, only, free⟩
  rcases List.map_eq_singleton_iff.mp only with ⟨check, own, rfl⟩
  -- After the query only other requests acted, and they created nothing that clashes.
  rcases exists_first_own own with ⟨before, after, split, dropped⟩
  have kept : ∀ entry ∈ (party, check) :: after, ∀ added ∈ created entry.2, ¬ Clash added row := by
    have along := along_iff.mp uncontested trace (party, event) [] rfl row made
    rwa [dropped] at along
  rw [split, List.map_append, chained_append] at chained
  rcases chained with ⟨_, _, _, rest⟩
  have steps : ∀ event ∈ (check :: after.map Prod.snd),
      ∃ choice, event = catalogMachine.event choice event.operation event.before := by
    intro event member
    have listed : event ∈ ((party, check) :: after).map Prod.snd := member
    rcases List.mem_map.mp listed with ⟨entry, inside, rfl⟩
    have taken : (entry.1, entry.2) ∈ trace ++ [(party, event)] := by
      rw [split]
      exact List.mem_append_left _ (List.mem_append_right _ inside)
    exact interleaving.event_eq taken
  have segment : Chained check.before (check :: after.map Prod.snd) middle := ⟨rfl, rest⟩
  rcases stored_or_created segment steps stored with before | ⟨later, member, made⟩
  · exact free id other before
  · have listed : later ∈ ((party, check) :: after).map Prod.snd := member
    rcases List.mem_map.mp listed with ⟨entry, inside, rfl⟩
    exact kept entry inside other made

/-- In every interleaving of requests to create components in which no request
creates a component between the query and the insertion of another for the same
name and region, names and regions stay unique. -/
theorem components_unique
    (interleaving : Interleaving catalogMachine (fun party => postComponentHandler (requests party))
      catalog trace final)
    (unique : UniqueRegions catalog) (uncontested : Uncontested trace) : UniqueRegions final := by
  induction trace using List.reverseRecOn generalizing final with
  | nil =>
    have same : catalog = final := interleaving.chained
    exact same ▸ unique
  | append_singleton trace entry ih =>
    rcases entry with ⟨party, event⟩
    rcases interleaving.prefix_of_append with ⟨middle, earlier, before, last⟩
    have known : UniqueRegions middle := by
      apply ih earlier
      rw [Uncontested, along_iff] at uncontested ⊢
      intro seen entry later split
      exact uncontested seen entry (later ++ [(party, event)]) (by simp [split])
    rcases interleaving.event_eq (List.mem_append_right trace List.mem_cons_self) with
      ⟨choice, shape⟩
    have step := catalog_step choice event.operation event.before
    have after : event.after = (catalogMachine.perform choice event.operation event.before).2 :=
      congrArg Process.Event.after shape
    rw [← shape, ← after, before, last] at step
    rcases step with ⟨_, same⟩ | ⟨row, made, inserted⟩
    · rw [same]
      exact known
    · rw [inserted]
      exact known.insert
        (fits_of_uncontested interleaving uncontested earlier.chained made)

end Requests

/-- A component of the given region, with its other attributes. -/
def cloudServer (region : String) : PostComponentData where
  attributes := some [⟨"type", "ecs"⟩, ⟨"region", region⟩, ⟨"category", "Compute"⟩]
  name := "Cloud Server"

/-- Two requests for the same component ask before either inserts, and both insert. -/
theorem components_unique_fails :
    ¬ ∀ (requests : Fin 2 → PostComponentData) (trace : List (Fin 2 × Process.Event CatalogOp
      Catalog)) (final : Catalog), Interleaving catalogMachine
        (fun party => postComponentHandler (requests party)) SerialTable.empty trace final →
      UniqueRegions final := by
  intro claimed
  have unique := claimed (fun _ => cloudServer "EU-DE") _ _
    (schedule_interleaving catalogMachine
      (fun _ : Fin 2 => postComponentHandler (cloudServer "EU-DE"))
      [(0, false), (1, false), (0, false), (1, false)] SerialTable.empty)
  have stored : ∀ id, id = 1 ∨ id = 2 → ((schedule catalogMachine
      (fun _ : Fin 2 => postComponentHandler (cloudServer "EU-DE"))
      [(0, false), (1, false), (0, false), (1, false)] SerialTable.empty).2).get? id =
        some ⟨"Cloud Server", [⟨"type", "ecs"⟩, ⟨"region", "EU-DE"⟩, ⟨"category", "Compute"⟩]⟩ := by
    rintro id (rfl | rfl) <;> decide +kernel
  exact absurd (unique 1 2 _ _ (stored 1 (Or.inl rfl)) (stored 2 (Or.inr rfl)) (by decide))
    (by decide)

/-- Two requests for one component, the second after the first, and one for another
region in between. -/
def requested (party : Fin 3) : PostComponentData :=
  cloudServer (if party = 2 then "EU-NL" else "EU-DE")

/-- The second request for the component is refused, the other region passes. -/
theorem components_unique_inTurn :
    ∃ trace final, Interleaving catalogMachine (fun party => postComponentHandler (requested party))
        SerialTable.empty trace final ∧
      final.nextId = 3 ∧ UniqueRegions final := by
  have run := schedule_interleaving catalogMachine
    (fun party => postComponentHandler (requested party))
    [(0, false), (2, false), (0, false), (1, false), (2, false), (1, false)] SerialTable.empty
  refine ⟨_, _, run, by decide +kernel, components_unique run ?_ (by decide +kernel)⟩
  intro first second one two missing
  rw [SerialTable.get?_empty] at missing
  cases missing

/-! ## Looking a component up -/

section Lookup

variable {store : Store} {name region : String}

/-- The lookup finds a component exactly where the creation of one of that name
and region is refused, and what it finds has the name and the region. -/
structure LookupAgrees (store : Store) (name region : String) : Prop where
  refused : ∀ (rank : Nat → Nat) (attrs : List ComponentAttr) (attr : ComponentAttr),
    attrs.find? (fun attr => attr.name = regionAttrName) = some attr → attr.value = region →
    ((∃ component, (Query.componentFromNameAttrs name region).eval rank store = .ok component) ↔
      ((saveComponent name attrs).evaluate catalogMachine false store.components).1 =
        .error .componentExists)
  sound : ∀ (rank : Nat → Nat) (component : Component),
    (Query.componentFromNameAttrs name region).eval rank store = .ok component →
    component.name = name ∧
      ∃ attr ∈ component.attrs, attr.name = regionAttrName ∧ attr.value = region

/-- A component of that name with that value in some attribute. -/
def carries (name value : String) (row : ComponentRow) : Bool :=
  row.name == name && row.attrs.any (fun attr => attr.value == value)

theorem carries_of_inRegion {row : ComponentRow} (named : row.name = name)
    (inside : inRegion row region = true) : carries name region row = true := by
  rcases List.any_eq_true.mp inside with ⟨attr, member, fits⟩
  rw [Bool.and_eq_true] at fits
  exact Bool.and_eq_true_iff.mpr ⟨beq_iff_eq.mpr named, List.any_eq_true.mpr ⟨attr, member, fits.2⟩⟩

theorem saveComponent_refused_iff {attrs : List ComponentAttr} {attr : ComponentAttr}
    (first : attrs.find? (fun attr => attr.name = regionAttrName) = some attr) (catalog : Catalog) :
    ((saveComponent name attrs).evaluate catalogMachine false catalog).1 = .error .componentExists ↔
      ∃ entry ∈ catalog.rows, entry.2.name = name ∧ inRegion entry.2 attr.value = true := by
  unfold saveComponent
  rw [first]
  change (Program.evaluate catalogMachine false (if (catalog.rows.any (fun entry =>
    entry.2.name == name && inRegion entry.2 attr.value)) = true then _ else _) catalog).1 = _ ↔ _
  split_ifs with taken
  · refine iff_of_true rfl ?_
    simpa using taken
  · refine iff_of_false ?_ (by simpa using taken)
    change (Program.evaluate catalogMachine false
      (Program.callExcept (.createComponent _)) catalog).1 ≠ _
    by_cases distinct : (attrs.map ComponentAttr.name).Nodup <;>
      simp [Program.callExcept, Program.evaluate, catalogMachine, distinct]

/-- The lookup answers with the first component that carries the value. -/
theorem lookup_eq (rank : Nat → Nat) (store : Store) (name region : String) :
    (Query.componentFromNameAttrs name region).eval rank store =
      match store.components.rows.find? (fun entry => carries name region entry.2) with
      | some entry => .ok (componentFromEnt entry.1 entry.2)
      | none => .error .componentDSNotExist := rfl

/-- A component that carries the value is the first one or comes after it. -/
theorem first_or_later {entry : Nat × ComponentRow} {id : Nat} {row : ComponentRow}
    (found : store.components.rows.find? (fun entry => carries name region entry.2) = some entry)
    (stored : store.components.get? id = some row) (carried : carries name region row = true) :
    (id, row) = entry ∨ entry.1 < id := by
  rcases List.find?_eq_some_iff_append.mp found with ⟨_, before, after, split, skipped⟩
  have listed : (id, row) ∈ before ++ entry :: after := split ▸ SerialTable.mem_rows.mpr stored
  have increasing := store.components.rows_increasing
  rw [split, List.pairwise_append, List.pairwise_cons] at increasing
  rcases List.mem_append.mp listed with earlier | here
  · have absent := skipped _ earlier
    rw [carried] at absent
    cases absent
  · rcases List.mem_cons.mp here with same | later
    · exact Or.inl same
    · exact Or.inr (increasing.2.1.1 _ later)

/-- Lookup and identity agree exactly when every component of the name that has
the value in another attribute than its region comes after one that has it there. -/
theorem lookup_agrees_iff (store : Store) (name region : String) :
    LookupAgrees store name region ↔ ∀ id row, store.components.get? id = some row →
      row.name = name → (∃ attr ∈ row.attrs, attr.value = region) →
      inRegion row region = true ∨ ∃ earlier < id, ∃ other,
        store.components.get? earlier = some other ∧ other.name = name ∧
          inRegion other region = true := by
  cases found : store.components.rows.find? (fun entry => carries name region entry.2) with
  | none =>
    have absent : ∀ id row, store.components.get? id = some row → carries name region row = false :=
      fun id row stored => by
        simpa using List.find?_eq_none.mp found (id, row) (SerialTable.mem_rows.mpr stored)
    have missing : ∀ rank component,
        (Query.componentFromNameAttrs name region).eval rank store ≠ .ok component := by
      intro rank component answer
      rw [lookup_eq, found] at answer
      cases answer
    refine iff_of_true ⟨?_, fun rank component answer => absurd answer (missing rank component)⟩ ?_
    · rintro rank attrs attr first rfl
      rw [saveComponent_refused_iff first]
      refine iff_of_false (fun ⟨component, answer⟩ => missing rank component answer) ?_
      rintro ⟨entry, member, named, inside⟩
      have carried := carries_of_inRegion named inside
      rw [absent _ _ (SerialTable.mem_rows.mp member)] at carried
      cases carried
    · rintro id row stored rfl ⟨attr, member, rfl⟩
      have carried : carries row.name attr.value row = true :=
        Bool.and_eq_true_iff.mpr ⟨beq_self_eq_true _,
          List.any_eq_true.mpr ⟨attr, member, beq_self_eq_true _⟩⟩
      rw [absent id row stored] at carried
      cases carried
  | some entry =>
    have carried : carries name region entry.2 = true :=
      List.find?_some (p := carries name region ∘ Prod.snd) found
    have stored := SerialTable.mem_rows.mp (List.mem_of_find?_eq_some found)
    have answer : ∀ rank, (Query.componentFromNameAttrs name region).eval rank store =
        .ok (componentFromEnt entry.1 entry.2) := by
      intro rank
      rw [lookup_eq, found]
    rw [carries, Bool.and_eq_true, beq_iff_eq, List.any_eq_true] at carried
    constructor
    · intro agrees id row present named value
      rcases agrees.sound id _ (answer id) with ⟨_, attr, member, isRegion, isValue⟩
      have inside : inRegion entry.2 region = true :=
        List.any_eq_true.mpr ⟨attr, member, by simp [isRegion, isValue]⟩
      have carries : carries name region row = true := by
        simpa [carries, named] using value
      rcases first_or_later found present carries with rfl | later
      · exact Or.inl inside
      · exact Or.inr ⟨entry.1, later, entry.2, stored, carried.1, inside⟩
    · intro condition
      have inside : inRegion entry.2 region = true := by
        rcases carried.2 with ⟨attr, member, value⟩
        rcases condition entry.1 entry.2 stored carried.1 ⟨attr, member, beq_iff_eq.mp value⟩ with
          inside | ⟨earlier, before, other, present, named, inside⟩
        · exact inside
        · rcases first_or_later found present (carries_of_inRegion named inside) with same | later
          · exact absurd (congrArg Prod.fst same) (Nat.ne_of_lt before)
          · exact absurd later (Nat.lt_asymm before)
      constructor
      · rintro rank attrs attr first rfl
        rw [saveComponent_refused_iff first]
        exact iff_of_true ⟨_, answer rank⟩
          ⟨entry, SerialTable.mem_rows.mpr stored, carried.1, inside⟩
      · intro rank component found
        cases (answer rank).symm.trans found
        rcases List.any_eq_true.mp inside with ⟨attr, member, fits⟩
        simp only [Bool.and_eq_true, beq_iff_eq] at fits
        exact ⟨carried.1, attr, member, fits⟩

/-- A store with one component, with its region and its type. -/
def oneComponent (region type : String) : Store :=
  { Store.empty with
    components := SerialTable.empty.insert ⟨"Cloud Server", [⟨"type", type⟩, ⟨"region", region⟩]⟩
    componentExists := by intro pair member; cases member }

/-- A component is found by its type, although it is in another region. -/
theorem lookup_agrees_fails : ¬ ∀ store name region, LookupAgrees store name region := by
  intro claimed
  have agrees := claimed (oneComponent "EU-NL" "EU-DE") "Cloud Server" "EU-DE"
  have found : (Query.componentFromNameAttrs "Cloud Server" "EU-DE").eval id
      (oneComponent "EU-NL" "EU-DE") =
        .ok ⟨1, "Cloud Server", [⟨"type", "EU-DE"⟩, ⟨"region", "EU-NL"⟩]⟩ := by decide +kernel
  exact absurd (agrees.sound id _ found).2 (by decide)

/-- A type that is no region does not disturb. -/
theorem lookup_agrees_typed : LookupAgrees (oneComponent "EU-DE" "ecs") "Cloud Server" "EU-DE" := by
  rw [lookup_agrees_iff]
  intro id row stored _ _
  have listed := SerialTable.mem_rows.mpr stored
  exact Or.inl ((by decide : ∀ entry ∈ (oneComponent "EU-DE" "ecs").components.rows,
    inRegion entry.2 "EU-DE" = true) _ listed)

end Lookup

end StatusDashboard.Properties
