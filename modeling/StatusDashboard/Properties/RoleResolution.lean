import StatusDashboard.Auth.Roles

namespace StatusDashboard.Properties

open Handlers Auth

/-!
# The role of a token

What the stages from a token to a role are for: the caller gets the highest
role one of whose configured names occurs in a roles claim, with or without a
leading slash.  The stages do not all spell names alike.  The service keeps a
name without its slash, the provider looks for exactly the names of the
service, and only then the slash of a name that was found is removed.
-/

/-! ## Names in claims -/

/-- A name occurs as a key or a string value, at most at the accepted depth. -/
inductive OccursIn (name : String) : Nat → Json → Prop where
  | value {depth : Nat} (shallow : depth ≤ maxRolesClaimDepth) :
      OccursIn name depth (.string name)
  | key {depth : Nat} {nested : Json} {fields : List (String × Json)}
      (shallow : depth ≤ maxRolesClaimDepth) (field : (name, nested) ∈ fields) :
      OccursIn name depth (.object fields)
  | nested {depth : Nat} {key : String} {nested : Json} {fields : List (String × Json)}
      (shallow : depth ≤ maxRolesClaimDepth) (field : (key, nested) ∈ fields)
      (occurs : OccursIn name (depth + 1) nested) : OccursIn name depth (.object fields)
  | item {depth : Nat} {item : Json} {items : List Json}
      (shallow : depth ≤ maxRolesClaimDepth) (listed : item ∈ items)
      (occurs : OccursIn name depth item) : OccursIn name depth (.array items)

def isRolesClaim (name : String) : Prop :=
  name = userRolesClaim ∨ name = groupsClaim ∨ isProjectRolesClaim name = true

/-- A name occurs in a roles claim of a token. -/
def Occurs (payload : Payload) (name : String) : Prop :=
  ∃ claim ∈ payload.claims, isRolesClaim claim.1 ∧ OccursIn name 0 claim.2

/-! ## The intended role -/

/-- The configured names of a role, without surrounding space and one leading slash. -/
def namesFor (config : RBACConfig) : Role → List String
  | .admin => parseRoles config.admins
  | .operator => parseRoles config.operators
  | .creator => parseRoles config.creators
  | .reporter => parseRoles config.reporters
  | .noRole => []

/-- A name of the role occurs with or without a leading slash. -/
def Granted (config : RBACConfig) (payload : Payload) (role : Role) : Prop :=
  ∃ name ∈ namesFor config role, Occurs payload name ∨ Occurs payload (withSlash name)

/-- The highest of some roles, and none if there are none. -/
structure Highest (granted : Role → Prop) (role : Role) : Prop where
  reached : role = .noRole ∨ granted role
  highest : ∀ other, granted other → other.level ≤ role.level

/-- A text occurs that is a name of the role once its slash is removed, and that
is also, as it is, one of the configured names. -/
def Recognised (config : RBACConfig) (payload : Payload) (role : Role) : Prop :=
  ∃ spelling, Occurs payload spelling ∧ trimSlash spelling ∈ namesFor config role ∧
    ∃ other, ∃ name ∈ namesFor config other, trimSpace name = spelling

/-! ## What is collected -/

mutual

theorem mem_collectRoleNames {known : List String} {name : String} {depth : Nat} :
    (value : Json) → (name ∈ collectRoleNames known depth value ↔
      name ∈ known ∧ OccursIn name depth value)
  | .scalar => by
    constructor
    · intro found
      exact absurd found List.not_mem_nil
    · rintro ⟨_, occurs⟩
      cases occurs
  | .string value => by
    unfold collectRoleNames
    constructor
    · intro found
      split_ifs at found with deep listed
      · exact absurd found List.not_mem_nil
      · obtain rfl := List.mem_singleton.mp found
        exact ⟨List.contains_iff_mem.mp listed, .value (Nat.le_of_not_lt deep)⟩
      · exact absurd found List.not_mem_nil
    · rintro ⟨listed, occurs⟩
      cases occurs with
      | value shallow =>
        rw [if_neg (Nat.not_lt.mpr shallow), if_pos (List.contains_iff_mem.mpr listed)]
        exact List.mem_singleton.mpr rfl
  | .array items => by
    unfold collectRoleNames
    constructor
    · intro found
      split_ifs at found with deep
      · exact absurd found List.not_mem_nil
      · rcases (mem_collectItems items).mp found with ⟨listed, item, member, occurs⟩
        exact ⟨listed, .item (Nat.le_of_not_lt deep) member occurs⟩
    · rintro ⟨listed, occurs⟩
      cases occurs with
      | item shallow member occurs =>
        rw [if_neg (Nat.not_lt.mpr shallow)]
        exact (mem_collectItems items).mpr ⟨listed, _, member, occurs⟩
  | .object fields => by
    unfold collectRoleNames
    constructor
    · intro found
      split_ifs at found with deep
      · exact absurd found List.not_mem_nil
      · have shallow := Nat.le_of_not_lt deep
        rcases (mem_collectFields fields).mp found with ⟨listed, field, member, named | occurs⟩
        · rcases field with ⟨key, nested⟩
          obtain rfl : key = name := named
          exact ⟨listed, .key shallow member⟩
        · exact ⟨listed, .nested shallow member occurs⟩
    · rintro ⟨listed, occurs⟩
      cases occurs with
      | key shallow member =>
        rw [if_neg (Nat.not_lt.mpr shallow)]
        exact (mem_collectFields fields).mpr ⟨listed, _, member, Or.inl rfl⟩
      | nested shallow member occurs =>
        rw [if_neg (Nat.not_lt.mpr shallow)]
        exact (mem_collectFields fields).mpr ⟨listed, _, member, Or.inr occurs⟩

theorem mem_collectItems {known : List String} {name : String} {depth : Nat} :
    (items : List Json) → (name ∈ collectItems known depth items ↔
      name ∈ known ∧ ∃ item ∈ items, OccursIn name depth item)
  | [] => by simp [collectItems]
  | item :: items => by
    rw [collectItems, List.mem_append, mem_collectRoleNames item, mem_collectItems items,
      ← and_or_left, List.exists_mem_cons_iff]

theorem mem_collectFields {known : List String} {name : String} {depth : Nat} :
    (fields : List (String × Json)) → (name ∈ collectFields known depth fields ↔
      name ∈ known ∧ ∃ field ∈ fields, field.1 = name ∨ OccursIn name (depth + 1) field.2)
  | [] => by simp [collectFields]
  | (key, nested) :: fields => by
    rw [collectFields, List.mem_append, List.mem_append, mem_collectRoleNames nested,
      mem_collectFields fields, List.exists_mem_cons_iff]
    have own : name ∈ (if known.contains key then [key] else []) ↔ name ∈ known ∧ key = name := by
      split_ifs with listed
      · rw [List.mem_singleton]
        constructor
        · rintro rfl
          exact ⟨List.contains_iff_mem.mp listed, rfl⟩
        · exact fun both => both.2.symm
      · constructor
        · exact fun member => absurd member List.not_mem_nil
        · rintro ⟨member, rfl⟩
          exact absurd (List.contains_iff_mem.mpr member) listed
    rw [own, ← and_or_left, ← and_or_left]

end

theorem claim_mem_of_get? {payload : Payload} {name : String} {value : Json}
    (found : payload.get? name = some value) : (name, value) ∈ payload.claims := by
  rcases Option.map_eq_some_iff.mp found with ⟨⟨claim, _⟩, first, rfl⟩
  have named : claim = name := by simpa using List.find?_some first
  subst named
  exact List.mem_of_find?_eq_some first

theorem get?_of_claim_mem {payload : Payload} {name : String} {value : Json}
    (member : (name, value) ∈ payload.claims) : payload.get? name = some value := by
  cases found : payload.claims.find? (fun claim => claim.1 = name) with
  | none => exact absurd (List.find?_eq_none.mp found _ member) (by simp)
  | some claim =>
    have same : claim = (name, value) :=
      List.inj_on_of_nodup_map payload.distinct (List.mem_of_find?_eq_some found) member
        (by simpa using List.find?_some found)
    unfold Auth.Payload.get?
    rw [found, same]
    rfl

/-- Exactly the known names that occur in roles claims are extracted. -/
theorem mem_extractRolesFromClaims {payload : Payload} {known : List String} {name : String} :
    name ∈ extractRolesFromClaims payload known ↔ name ∈ known ∧ Occurs payload name := by
  unfold extractRolesFromClaims sortedRoleNames
  split_ifs with empty
  · simp [empty]
  · rw [(List.perm_insertionSort _ _).mem_iff, List.mem_dedup, List.mem_append, List.mem_flatMap,
      List.mem_flatMap]
    constructor
    · rintro (⟨claim, listed, found⟩ | ⟨⟨claim, value⟩, member, found⟩)
      · cases present : payload.get? claim with
        | none =>
          rw [present] at found
          exact absurd found List.not_mem_nil
        | some value =>
          rw [present] at found
          rcases (mem_collectRoleNames value).mp found with ⟨isKnown, occurs⟩
          refine ⟨isKnown, (claim, value), claim_mem_of_get? present, ?_, occurs⟩
          rcases List.mem_cons.mp listed with rfl | listed
          · exact Or.inl rfl
          · exact Or.inr (Or.inl (List.mem_singleton.mp listed))
      · dsimp only at found
        split_ifs at found with project
        · rcases (mem_collectRoleNames value).mp found with ⟨isKnown, occurs⟩
          exact ⟨isKnown, (claim, value), member, Or.inr (Or.inr project), occurs⟩
        · exact absurd found List.not_mem_nil
    · rintro ⟨isKnown, ⟨claim, value⟩, member, rolesClaim, occurs⟩
      have collected : name ∈ collectRoleNames known 0 value :=
        (mem_collectRoleNames value).mpr ⟨isKnown, occurs⟩
      rcases rolesClaim with user | groups | project
      · refine Or.inl ⟨claim, List.mem_cons.mpr (Or.inl user), ?_⟩
        rw [get?_of_claim_mem member]
        exact collected
      · refine Or.inl ⟨claim, List.mem_cons_of_mem _ (List.mem_singleton.mpr groups), ?_⟩
        rw [get?_of_claim_mem member]
        exact collected
      · refine Or.inr ⟨(claim, value), member, ?_⟩
        dsimp only
        rw [if_pos project]
        exact collected

/-! ## What is resolved -/

theorem mem_roleNameSet {config : RBACConfig} {spelling : String} :
    spelling ∈ roleNameSet (Service.new config).roleNames ↔ spelling ≠ "" ∧
      ∃ other, ∃ name ∈ namesFor config other, trimSpace name = spelling := by
  have names : ∀ name, name ∈ (Service.new config).roleNames ↔
      ∃ other, name ∈ namesFor config other := by
    intro name
    unfold Service.roleNames
    rw [(List.perm_insertionSort _ _).mem_iff, List.mem_dedup]
    simp only [List.mem_append]
    constructor
    · rintro (((creator | operator) | admin) | reporter)
      · exact ⟨.creator, creator⟩
      · exact ⟨.operator, operator⟩
      · exact ⟨.admin, admin⟩
      · exact ⟨.reporter, reporter⟩
    · rintro ⟨other, member⟩
      cases other with
      | noRole => exact absurd member List.not_mem_nil
      | reporter => exact Or.inr member
      | creator => exact Or.inl (Or.inl (Or.inl member))
      | operator => exact Or.inl (Or.inl (Or.inr member))
      | admin => exact Or.inl (Or.inr member)
  unfold roleNameSet
  rw [List.mem_filter, List.mem_map]
  simp only [names, decide_eq_true_eq]
  constructor
  · rintro ⟨⟨name, ⟨other, member⟩, trimmed⟩, nonempty⟩
    exact ⟨nonempty, other, name, member, trimmed⟩
  · rintro ⟨nonempty, other, name, member, trimmed⟩
    exact ⟨⟨name, ⟨other, member⟩, trimmed⟩, nonempty⟩

/-- A name gets a role that lists it. -/
theorem mem_namesFor_roleForName {config : RBACConfig} {name : String}
    (given : (Service.new config).roleForName name ≠ .noRole) :
    name ∈ namesFor config ((Service.new config).roleForName name) := by
  unfold Service.roleForName at given ⊢
  split_ifs at given ⊢ with admin operator creator reporter
  · exact List.contains_iff_mem.mp admin
  · exact List.contains_iff_mem.mp operator
  · exact List.contains_iff_mem.mp creator
  · exact List.contains_iff_mem.mp reporter
  · exact absurd rfl given

/-- No role that lists a name is above the one it gets. -/
theorem level_le_roleForName {config : RBACConfig} {name : String} {role : Role}
    (member : name ∈ namesFor config role) :
    role.level ≤ ((Service.new config).roleForName name).level := by
  have listed : ∀ names : List String, name ∈ names → names.contains name = true :=
    fun names inside => List.contains_iff_mem.mpr inside
  unfold Service.roleForName
  cases role with
  | noRole => exact Nat.zero_le _
  | admin =>
    split_ifs with admin
    · exact Nat.le_refl _
    all_goals exact absurd (listed _ member) admin
  | operator =>
    split_ifs with admin operator
    · decide
    · exact Nat.le_refl _
    all_goals exact absurd (listed _ member) operator
  | creator =>
    split_ifs with admin operator creator
    · decide
    · decide
    · exact Nat.le_refl _
    all_goals exact absurd (listed _ member) creator
  | reporter =>
    split_ifs with admin operator creator reporter
    · decide
    · decide
    · decide
    · exact Nat.le_refl _
    · exact absurd (listed _ member) reporter

/-- Resolving keeps the larger role at every name. -/
theorem resolveFrom_spec (service : Service) (current : Role) (names : List String) :
    current.level ≤ (service.resolveFrom current names).level ∧
      (∀ name ∈ names, (service.roleForName (Service.normalizeRoleName name)).level ≤
        (service.resolveFrom current names).level) ∧
      (service.resolveFrom current names = current ∨ ∃ name ∈ names,
        service.resolveFrom current names =
          service.roleForName (Service.normalizeRoleName name)) := by
  have top : ∀ role : Role, role.level ≤ Role.admin.level := by
    intro role
    cases role <;> decide
  induction names generalizing current with
  | nil => exact ⟨Nat.le_refl _, List.forall_mem_nil _, Or.inl rfl⟩
  | cons name names ih =>
    unfold Service.resolveFrom
    dsimp only
    split_ifs with admin higher
    · exact ⟨top _, fun _ _ => top _, Or.inr ⟨name, List.mem_cons_self, admin.symm⟩⟩
    · rcases ih (service.roleForName (Service.normalizeRoleName name)) with ⟨kept, every, origin⟩
      refine ⟨higher.le.trans kept, List.forall_mem_cons.mpr ⟨kept, every⟩, ?_⟩
      rcases origin with same | ⟨other, member, same⟩
      · exact Or.inr ⟨name, List.mem_cons_self, same⟩
      · exact Or.inr ⟨other, List.mem_cons_of_mem _ member, same⟩
    · rcases ih current with ⟨kept, every, origin⟩
      refine ⟨kept, List.forall_mem_cons.mpr ⟨(Nat.le_of_not_lt higher).trans kept, every⟩, ?_⟩
      rcases origin with same | ⟨other, member, same⟩
      · exact Or.inl same
      · exact Or.inr ⟨other, List.mem_cons_of_mem _ member, same⟩

theorem nonempty_of_mem_namesFor {config : RBACConfig} {role : Role} {name : String}
    (member : name ∈ namesFor config role) : name ≠ "" := by
  have parsed : ∀ input, name ∈ parseRoles input → name ≠ "" := by
    intro input listed
    simpa using (List.mem_filter.mp listed).2
  cases role with
  | noRole => exact absurd member List.not_mem_nil
  | _ => exact parsed _ member

/-- The texts that the service is asked about. -/
theorem mem_extracted {config : RBACConfig} {payload : Payload} {spelling : String} :
    spelling ∈ extractRolesFromClaims payload (roleNameSet (Service.new config).roleNames) ↔
      spelling ≠ "" ∧ Occurs payload spelling ∧
        ∃ other, ∃ name ∈ namesFor config other, trimSpace name = spelling := by
  rw [mem_extractRolesFromClaims, mem_roleNameSet]
  tauto

/-- The role of a request is the highest recognised one. -/
theorem requestRole_highest (config : RBACConfig) (payload : Payload) :
    Highest (Recognised config payload) (requestRole config payload) := by
  rcases resolveFrom_spec (Service.new config) .noRole (extractRolesFromClaims payload
    (roleNameSet (Service.new config).roleNames)) with ⟨_, every, origin⟩
  constructor
  · by_cases roleless : requestRole config payload = .noRole
    · exact Or.inl roleless
    · rcases origin with same | ⟨spelling, found, same⟩
      · exact absurd same roleless
      · rcases mem_extracted.mp found with ⟨_, occurs, known⟩
        have role : requestRole config payload =
            (Service.new config).roleForName (trimSlash spelling) := same
        refine Or.inr ⟨spelling, occurs, ?_, known⟩
        rw [role] at roleless ⊢
        exact mem_namesFor_roleForName roleless
  · rintro other ⟨spelling, occurs, member, known⟩
    have nonempty : spelling ≠ "" := by
      rintro rfl
      exact nonempty_of_mem_namesFor member (by decide +kernel)
    exact (level_le_roleForName member).trans
      (every spelling (mem_extracted.mpr ⟨nonempty, occurs, known⟩))

/-- What is recognised is granted, so no request gets a higher role than intended. -/
theorem Recognised.granted {config : RBACConfig} {payload : Payload} {role : Role}
    (recognised : Recognised config payload role) : Granted config payload role := by
  rcases recognised with ⟨spelling, occurs, member, _⟩
  refine ⟨trimSlash spelling, member, ?_⟩
  rcases eq_or_eq_withSlash spelling with same | same
  · exact Or.inl (same ▸ occurs)
  · exact Or.inr (same ▸ occurs)

/-- The role of a request is the intended one exactly when each granted role is
matched by a recognised one that is not lower. -/
theorem requestRole_intended_iff (config : RBACConfig) (payload : Payload) :
    Highest (Granted config payload) (requestRole config payload) ↔
      ∀ role, Granted config payload role →
        ∃ other, role.level ≤ other.level ∧ Recognised config payload other := by
  have actual := requestRole_highest config payload
  constructor
  · intro intended role granted
    have below := intended.highest role granted
    rcases actual.reached with roleless | recognised
    · -- A granted role is not the lowest one, which has no names.
      rw [roleless] at below
      rcases granted with ⟨name, member, _⟩
      cases role with
      | noRole => exact absurd member List.not_mem_nil
      | _ => exact absurd below (by decide)
    · exact ⟨requestRole config payload, below, recognised⟩
  · intro matched
    refine ⟨actual.reached.imp_right Recognised.granted, ?_⟩
    intro role granted
    rcases matched role granted with ⟨other, above, recognised⟩
    exact above.trans (actual.highest other recognised)

/-- A configuration with two names for the administrators and one for the creators. -/
def sampleConfig : RBACConfig where
  creators := "sd_creators"
  operators := ""
  admins := "sd_admins, /status-dashboard"
  reporters := ""

/-- A token with one group. -/
def groupToken (group : String) : Payload where
  claims := [(groupsClaim, .array [.string group])]
  distinct := List.nodup_singleton _

theorem occurs_groupToken (group : String) : Occurs (groupToken group) group :=
  ⟨_, List.mem_singleton.mpr rfl, Or.inr (Or.inl rfl),
    .item (Nat.zero_le _) (List.mem_singleton.mpr rfl) (.value (Nat.zero_le _))⟩

/-- A group that is written with a slash is not among the known names, so a token
of an administrator resolves to no role. -/
theorem requestRole_intended_fails :
    ∃ config payload, config.validate = true ∧ requestRole config payload = .noRole ∧
      Granted config payload .admin ∧
      ¬ Highest (Granted config payload) (requestRole config payload) := by
  have resolved : requestRole sampleConfig (groupToken "/sd_admins") = .noRole := by decide +kernel
  have granted : Granted sampleConfig (groupToken "/sd_admins") .admin :=
    ⟨"sd_admins", by decide +kernel, Or.inr (occurs_groupToken "/sd_admins")⟩
  refine ⟨sampleConfig, groupToken "/sd_admins", by decide +kernel, resolved, granted, ?_⟩
  intro intended
  have below := intended.highest .admin granted
  rw [resolved] at below
  exact absurd below (by decide)

/-- The same group without the slash. -/
theorem requestRole_intended_plain :
    requestRole sampleConfig (groupToken "sd_admins") = .admin ∧
      Highest (Granted sampleConfig (groupToken "sd_admins"))
        (requestRole sampleConfig (groupToken "sd_admins")) := by
  refine ⟨by decide +kernel, (requestRole_intended_iff _ _).mpr ?_⟩
  intro role _
  refine ⟨.admin, by cases role <;> decide, "sd_admins", occurs_groupToken "sd_admins",
    by decide +kernel, .admin, "sd_admins", by decide +kernel, by decide +kernel⟩

/-- A token that names more gets no lower role. -/
theorem requestRole_mono (config : RBACConfig) {fewer more : Payload}
    (included : ∀ name, Occurs fewer name → Occurs more name) :
    (requestRole config fewer).level ≤ (requestRole config more).level := by
  rcases (requestRole_highest config fewer).reached with roleless | ⟨name, occurs, recognised⟩
  · rw [roleless]
    exact Nat.zero_le _
  · exact (requestRole_highest config more).highest _ ⟨name, included name occurs, recognised⟩

theorem requestRole_mono_group :
    (requestRole sampleConfig (groupToken "sd_creators")).level ≤
      (requestRole sampleConfig ⟨(userRolesClaim, .string "sd_admins") ::
        (groupToken "sd_creators").claims, by decide⟩).level := by
  apply requestRole_mono
  rintro name ⟨claim, member, roles, occurs⟩
  exact ⟨claim, List.mem_cons_of_mem _ member, roles, occurs⟩

end StatusDashboard.Properties
