import StatusDashboard.Handlers.Request

namespace StatusDashboard.Auth

open Handlers

/-!
# From a token to a role

The configuration lists the role names of the identity provider for each
application role.  The service parses the lists, the provider is built with all
names the service knows, the claims of a verified token are searched for known
names, and the highest role of the names that were found is the caller's.
-/

/-! ## Names -/

/-- White space as the standard library of the language has it. -/
def isSpace (char : Char) : Bool :=
  [0x09, 0x0a, 0x0b, 0x0c, 0x0d, 0x20, 0x85, 0xa0, 0x1680, 0x2028, 0x2029, 0x202f, 0x205f,
    0x3000].contains char.toNat || (0x2000 ≤ char.toNat && char.toNat ≤ 0x200a)

def trimSpace (name : String) : String :=
  String.ofList ((name.toList.dropWhile isSpace).rdropWhile isSpace)

/-- Remove one leading slash. -/
def trimSlash (name : String) : String :=
  match name.toList with
  | '/' :: rest => String.ofList rest
  | _ => name

def withSlash (name : String) : String := "/" ++ name

/-- A name without its slash was written without or with one. -/
theorem eq_or_eq_withSlash (name : String) :
    name = trimSlash name ∨ name = withSlash (trimSlash name) := by
  unfold trimSlash withSlash
  split
  · rename_i rest shape
    right
    apply String.toList_inj.mp
    simp [shape]
  · exact Or.inl rfl

/-! ## The service -/

structure RBACConfig where
  creators : String
  operators : String
  admins : String
  reporters : String
deriving DecidableEq, Repr

def RBACConfig.validate (config : RBACConfig) : Bool := config.admins ≠ ""

def parseRoles (input : String) : List String :=
  ((input.toList.splitOn ',').map (fun part => trimSlash (trimSpace (String.ofList part)))).filter
    (fun part => part ≠ "")

structure Service where
  admins : List String
  operators : List String
  creators : List String
  reporters : List String
deriving DecidableEq, Repr

def Service.new (config : RBACConfig) : Service where
  creators := parseRoles config.creators
  operators := parseRoles config.operators
  admins := parseRoles config.admins
  reporters := parseRoles config.reporters

namespace Service

def roleForName (service : Service) (roleName : String) : Role :=
  if service.admins.contains roleName then .admin
  else if service.operators.contains roleName then .operator
  else if service.creators.contains roleName then .creator
  else if service.reporters.contains roleName then .reporter
  else .noRole

def normalizeRoleName (roleName : String) : String := trimSlash roleName

/-- Every distinct role name, sorted. -/
def roleNames (service : Service) : List String :=
  (service.creators ++ service.operators ++ service.admins ++ service.reporters).dedup.insertionSort
    (· ≤ ·)

/-- The highest role so far, and then that of the remaining names. -/
def resolveFrom (service : Service) : Role → List String → Role
  | currentRole, [] => currentRole
  | currentRole, roleName :: roleNames =>
    let role := service.roleForName (normalizeRoleName roleName)
    if role = .admin then .admin
    else service.resolveFrom (if currentRole.level < role.level then role else currentRole) roleNames

def resolveRole (service : Service) (roleNames : List String) : Role :=
  service.resolveFrom .noRole roleNames

end Service

/-! ## Claims -/

/-- A decoded claim.  Numbers, booleans and null are of no interest. -/
inductive Json where
  | scalar
  | string (value : String)
  | array (items : List Json)
  | object (fields : List (String × Json))

/-- The claims of a verified token, each name once. -/
structure Payload where
  claims : List (String × Json)
  distinct : (claims.map Prod.fst).Nodup

def Payload.get? (payload : Payload) (name : String) : Option Json :=
  (payload.claims.find? (fun claim => claim.1 = name)).map Prod.snd

def maxRolesClaimDepth : Nat := 3
def userRolesClaim : String := "urn:zitadel:iam:org:project:roles"
def groupsClaim : String := "groups"
def projectRolesClaimStart : String := "urn:zitadel:iam:org:project:"
def projectRolesClaimEnd : String := ":roles"

def isProjectRolesClaim (name : String) : Bool :=
  projectRolesClaimStart.toList.isPrefixOf name.toList &&
    projectRolesClaimEnd.toList.isSuffixOf name.toList &&
    decide (projectRolesClaimStart.toList.length + projectRolesClaimEnd.toList.length <
      name.toList.length)

mutual

/-- The known names that occur as keys or values.  Only objects lead deeper. -/
def collectRoleNames (known : List String) (depth : Nat) : Json → List String
  | .scalar => []
  | .string value =>
    if maxRolesClaimDepth < depth then []
    else if known.contains value then [value] else []
  | .array items =>
    if maxRolesClaimDepth < depth then [] else collectItems known depth items
  | .object fields =>
    if maxRolesClaimDepth < depth then [] else collectFields known depth fields

def collectItems (known : List String) (depth : Nat) : List Json → List String
  | [] => []
  | item :: items => collectRoleNames known depth item ++ collectItems known depth items

def collectFields (known : List String) (depth : Nat) : List (String × Json) → List String
  | [] => []
  | (name, nested) :: fields =>
    (if known.contains name then [name] else []) ++
      collectRoleNames known (depth + 1) nested ++ collectFields known depth fields

end

def sortedRoleNames (found : List String) : List String :=
  found.dedup.insertionSort (· ≤ ·)

def extractRolesFromClaims (payload : Payload) (known : List String) : List String :=
  if known = [] then []
  else sortedRoleNames
    ([userRolesClaim, groupsClaim].flatMap (fun claim =>
        match payload.get? claim with
        | some value => collectRoleNames known 0 value
        | none => []) ++
      payload.claims.flatMap (fun claim =>
        if isProjectRolesClaim claim.1 then collectRoleNames known 0 claim.2 else []))

def roleNameSet (names : List String) : List String :=
  (names.map trimSpace).filter (fun name => name ≠ "")

/-! ## The whole way -/

/-- The role a request with a verified token gets. -/
def requestRole (config : RBACConfig) (payload : Payload) : Role :=
  let service := Service.new config
  service.resolveRole (extractRolesFromClaims payload (roleNameSet service.roleNames))

end StatusDashboard.Auth
