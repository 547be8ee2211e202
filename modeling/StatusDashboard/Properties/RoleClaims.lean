import StatusDashboard.Properties.RoleResolution

namespace StatusDashboard.Properties

open Handlers Auth

/-!
# The names in the claims of a token

The extraction walks through nested claims with a depth that only maps increase.
What it finds is described without the walk: a name occurs below some number of
maps, in a claim that names roles.  The claims are a map of maps, so they have
no order; two listings of the same claims give the same names.
-/

/-- A name occurs as a value, or as a key of a map, that is enclosed by `maps`
further maps. -/
inductive EnclosedBy (name : String) : Nat → Json → Prop where
  | value : EnclosedBy name 0 (.string name)
  | key {nested : Json} {fields : List (String × Json)} (field : (name, nested) ∈ fields) :
      EnclosedBy name 0 (.object fields)
  | nested {maps : Nat} {key : String} {nested : Json} {fields : List (String × Json)}
      (field : (key, nested) ∈ fields) (occurs : EnclosedBy name maps nested) :
      EnclosedBy name (maps + 1) (.object fields)
  | item {maps : Nat} {item : Json} {items : List Json} (listed : item ∈ items)
      (occurs : EnclosedBy name maps item) : EnclosedBy name maps (.array items)

/-- The claims that name roles. -/
def NamesRoles (name : String) : Prop :=
  name = userRolesClaim ∨ name = groupsClaim ∨
    ∃ middle, middle ≠ [] ∧
      name.toList = projectRolesClaimStart.toList ++ middle ++ projectRolesClaimEnd.toList

/-- Two listings of one value: the fields of an object come in any order. -/
inductive Relisted : Json → Json → Prop where
  | refl (value : Json) : Relisted value value
  | trans {first second third : Json} (before : Relisted first second)
      (after : Relisted second third) : Relisted first third
  | order {fields others : List (String × Json)} (same : fields.Perm others) :
      Relisted (.object fields) (.object others)
  | field {before after : List (String × Json)} {key : String} {one two : Json}
      (inner : Relisted one two) :
      Relisted (.object (before ++ (key, one) :: after)) (.object (before ++ (key, two) :: after))
  | item {before after : List Json} {one two : Json} (inner : Relisted one two) :
      Relisted (.array (before ++ one :: after)) (.array (before ++ two :: after))

theorem occursIn_iff {name : String} {depth : Nat} {value : Json} :
    OccursIn name depth value ↔
      ∃ maps, depth + maps ≤ maxRolesClaimDepth ∧ EnclosedBy name maps value := by
  constructor
  · intro occurs
    induction occurs with
    | value shallow => exact ⟨0, shallow, .value⟩
    | key shallow field => exact ⟨0, shallow, .key field⟩
    | nested shallow field occurs ih =>
      rcases ih with ⟨maps, bounded, enclosed⟩
      exact ⟨maps + 1, by omega, .nested field enclosed⟩
    | item shallow listed occurs ih =>
      rcases ih with ⟨maps, bounded, enclosed⟩
      exact ⟨maps, bounded, .item listed enclosed⟩
  · rintro ⟨maps, bounded, enclosed⟩
    induction enclosed generalizing depth with
    | value => exact .value bounded
    | key field => exact .key bounded field
    | nested field occurs ih => exact .nested (by omega) field (ih (by omega))
    | item listed occurs ih => exact .item (by omega) listed (ih bounded)

theorem isProjectRolesClaim_iff {name : String} :
    isProjectRolesClaim name = true ↔ ∃ middle, middle ≠ [] ∧
      name.toList = projectRolesClaimStart.toList ++ middle ++ projectRolesClaimEnd.toList := by
  unfold isProjectRolesClaim
  simp only [Bool.and_eq_true, List.isPrefixOf_iff_prefix, List.isSuffixOf_iff_suffix,
    decide_eq_true_eq]
  constructor
  · rintro ⟨⟨⟨rest, shape⟩, ending⟩, long⟩
    rw [← shape] at ending long
    -- the end lies behind the start, since the name is longer than both
    have within : projectRolesClaimEnd.toList <:+ rest := by
      apply List.suffix_of_suffix_length_le ending (List.suffix_append _ _)
      rw [List.length_append] at long
      omega
    rcases within with ⟨middle, rfl⟩
    refine ⟨middle, ?_, by rw [List.append_assoc, shape]⟩
    rintro rfl
    simp at long
  · rintro ⟨middle, nonempty, shape⟩
    rw [shape]
    refine ⟨⟨⟨middle ++ projectRolesClaimEnd.toList, by rw [List.append_assoc]⟩,
      List.suffix_append _ _⟩, ?_⟩
    have positive := List.length_pos_of_ne_nil nonempty
    rw [List.length_append, List.length_append]
    omega

/-- Names that occur in a claim that names roles, not too deep. -/
def Found (claims : List (String × Json)) (name : String) : Prop :=
  ∃ claim ∈ claims, NamesRoles claim.1 ∧
    ∃ maps ≤ maxRolesClaimDepth, EnclosedBy name maps claim.2

theorem occurs_iff_found {payload : Payload} {name : String} :
    Occurs payload name ↔ Found payload.claims name := by
  unfold Occurs Found isRolesClaim NamesRoles
  simp only [isProjectRolesClaim_iff, occursIn_iff, Nat.zero_add]

theorem enclosedBy_object {name : String} {maps : Nat} {fields : List (String × Json)} :
    EnclosedBy name maps (.object fields) ↔
      ∃ field ∈ fields, maps = 0 ∧ field.1 = name ∨
        ∃ fewer, maps = fewer + 1 ∧ EnclosedBy name fewer field.2 := by
  constructor
  · intro enclosed
    cases enclosed with
    | key field => exact ⟨_, field, Or.inl ⟨rfl, rfl⟩⟩
    | nested field occurs => exact ⟨_, field, Or.inr ⟨_, rfl, occurs⟩⟩
  · rintro ⟨field, member, ⟨rfl, rfl⟩ | ⟨fewer, rfl, occurs⟩⟩
    · exact .key member
    · exact .nested member occurs

theorem enclosedBy_array {name : String} {maps : Nat} {items : List Json} :
    EnclosedBy name maps (.array items) ↔ ∃ item ∈ items, EnclosedBy name maps item := by
  constructor
  · intro enclosed
    cases enclosed with
    | item listed occurs => exact ⟨_, listed, occurs⟩
  · rintro ⟨item, listed, occurs⟩
    exact .item listed occurs

/-- The order of fields decides nothing. -/
theorem Relisted.enclosedBy {name : String} {one two : Json} (relisted : Relisted one two) :
    ∀ maps, EnclosedBy name maps one ↔ EnclosedBy name maps two := by
  induction relisted with
  | refl => exact fun maps => Iff.rfl
  | trans before after first second => exact fun maps => (first maps).trans (second maps)
  | order same =>
    intro maps
    simp only [enclosedBy_object, same.mem_iff]
  | field inner ih =>
    intro maps
    simp only [enclosedBy_object, List.mem_append, List.mem_cons, or_and_right, exists_or,
      exists_eq_left, ih]
  | item inner ih =>
    intro maps
    simp only [enclosedBy_array, List.mem_append, List.mem_cons, or_and_right, exists_or,
      exists_eq_left, ih]

/-- Nor does the order of the claims. -/
theorem Relisted.found {name : String} {one two : Json} (relisted : Relisted one two) :
    (∃ claims, one = .object claims ∧ Found claims name) ↔
      ∃ claims, two = .object claims ∧ Found claims name := by
  induction relisted with
  | refl => exact Iff.rfl
  | trans before after first second => exact first.trans second
  | order same => simp only [Json.object.injEq, exists_eq_left', Found, same.mem_iff]
  | field inner =>
    simp only [Json.object.injEq, exists_eq_left', Found, List.mem_append, List.mem_cons,
      or_and_right, exists_or, exists_eq_left, inner.enclosedBy]
  | item => simp

theorem sortedRoleNames_sorted (found : List String) :
    (sortedRoleNames found).Pairwise (· < ·) := by
  have distinct : (sortedRoleNames found).Nodup :=
    (List.perm_insertionSort (· ≤ ·) found.dedup).nodup_iff.mpr (List.nodup_dedup found)
  have ordered : (sortedRoleNames found).Pairwise (· ≤ ·) :=
    List.pairwise_insertionSort (· ≤ ·) found.dedup
  exact ordered.imp₂ (fun _ _ => lt_of_le_of_ne) distinct

/-- The extracted names come in order and once, they are exactly the known names
found in the claims, and they do not depend on how the claims are listed. -/
theorem extractRolesFromClaims_exact (payload : Payload) (known : List String) :
    (extractRolesFromClaims payload known).Pairwise (· < ·) ∧
      (∀ name, name ∈ extractRolesFromClaims payload known ↔
        name ∈ known ∧ Found payload.claims name) ∧
      ∀ other : Payload, Relisted (.object payload.claims) (.object other.claims) →
        extractRolesFromClaims other known = extractRolesFromClaims payload known := by
  have sorted : ∀ payload : Payload, (extractRolesFromClaims payload known).Pairwise (· < ·) := by
    intro payload
    unfold extractRolesFromClaims
    split_ifs
    · exact List.Pairwise.nil
    · exact sortedRoleNames_sorted _
  have members : ∀ (payload : Payload) (name : String),
      name ∈ extractRolesFromClaims payload known ↔ name ∈ known ∧ Found payload.claims name := by
    intro payload name
    rw [mem_extractRolesFromClaims, occurs_iff_found]
  refine ⟨sorted payload, members payload, ?_⟩
  intro other relisted
  have same : ∀ name, name ∈ extractRolesFromClaims other known ↔
      name ∈ extractRolesFromClaims payload known := by
    intro name
    have found := @Relisted.found name _ _ relisted
    simp only [Json.object.injEq, exists_eq_left'] at found
    rw [members, members, found]
  have perm := (List.perm_ext_iff_of_nodup (sorted other).nodup (sorted payload).nodup).mpr same
  exact perm.eq_of_pairwise (fun _ _ _ _ less more => absurd more (lt_asymm less)) (sorted other)
    (sorted payload)

end StatusDashboard.Properties
