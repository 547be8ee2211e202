import StatusDashboard.Process.Interleaving
import StatusDashboard.Storage.Query

namespace StatusDashboard.Handlers

open Storage Tables Process

/-!
# Creating components

`POST /v2/components` and `SaveComponent`.  Whether a component of the same name
and region exists is asked in a query of its own; the component and its
attributes are inserted in a later transaction.  The only constraint of the
database is that the attributes of one component have different names.
-/

/-- The components and their attributes. -/
abbrev Catalog := SerialTable ComponentRow

/-- An attribute gives the component this region. -/
def inRegion (row : ComponentRow) (region : String) : Bool :=
  row.attrs.any (fun attr => attr.name == regionAttrName && attr.value == region)

inductive SaveError where
  | componentExists
  | missingRegion
  | database (error : DbError)
deriving DecidableEq, Repr

inductive CatalogOp : Type → Type where
  | componentExists (name region : String) : CatalogOp (Except SaveError Bool)
  | createComponent (row : ComponentRow) : CatalogOp (Except SaveError Nat)

/-- The query and the transaction.  The choice of the environment is whether the
database fails; a transaction that fails leaves nothing. -/
def catalogMachine : Machine CatalogOp Bool Catalog where
  perform
    | fault, .componentExists name region, catalog =>
      if fault then (.error (.database .driver), catalog)
      else (.ok (catalog.rows.any (fun entry =>
        entry.2.name == name && inRegion entry.2 region)), catalog)
    | fault, .createComponent row, catalog =>
      if fault then (.error (.database .driver), catalog)
      else if (row.attrs.map ComponentAttr.name).Nodup then
        (.ok catalog.nextId, catalog.insert row)
      else (.error (.database .constraint), catalog)

/-- The first region attribute decides which query is made. -/
def saveComponent (name : String) (attrs : List ComponentAttr) :
    Program CatalogOp SaveError Nat :=
  match attrs.find? (fun attr => attr.name = regionAttrName) with
  | none => .fail .missingRegion
  | some attr => do
      let found ← Program.callExcept (.componentExists name attr.value)
      if found then .fail .componentExists
      else Program.callExcept (.createComponent { name := name, attrs := attrs })

/-! ## The handler -/

structure PostComponentData where
  attributes : Option (List ComponentAttr)
  name : String
deriving DecidableEq, Repr

inductive ComponentError where
  | invalidBody
  | attrInvalidFormat
  | componentExist
  | internal (error : SaveError)
deriving DecidableEq, Repr

def availableAttrs : List String := ["type", "region", "category"]

/-- The names met so far, as long as each is known and new. -/
def seenAttrs (seen : List String) : List ComponentAttr → Option (List String)
  | [] => some seen
  | attr :: attrs =>
    if !availableAttrs.contains attr.name then none
    else if seen.contains attr.name then none
    else seenAttrs (attr.name :: seen) attrs

def checkComponentAttrs (attrs : List ComponentAttr) : Bool :=
  if attrs.length ≠ 3 then false
  else
    match seenAttrs [] attrs with
    | none => false
    | some seen => availableAttrs.all seen.contains

def componentError : SaveError → ComponentError
  | .componentExists => .componentExist
  | error => .internal error

/-- The id of the new component. -/
def postComponentHandler (data : PostComponentData) : Program CatalogOp ComponentError Nat :=
  match data.attributes with
  | none => .fail .invalidBody
  | some attrs =>
    if data.name = "" then .fail .invalidBody
    else if checkComponentAttrs attrs = false then .fail .attrInvalidFormat
    else (saveComponent data.name attrs).mapError componentError

end StatusDashboard.Handlers
