import HydrationPlan.Json.Basic
import HydrationPlan.Table

/-!
# Records in JSON

A record with fixed fields is written as an object. It is read from an object that gives no field
twice, where members of other names are ignored, or from a list that gives its fields in order and
may stop early.
-/

namespace HydrationPlan.Json

/-- The members of a record with the given field names. -/
def record? (names : List String) : Json → Option (List (String × Json))
  | .obj members =>
    if ((members.map Prod.fst).filter (names.contains ·)).Nodup then some members else none
  | .arr items => if items.length ≤ names.length then some (names.zip items) else none
  | _ => none

variable {α : Type}

def required (members : List (String × Json)) (name : String) (read : Json → Option α) :
    Option α :=
  member? name members >>= read

/-- A field that may be absent or null. -/
def optional (members : List (String × Json)) (name : String) (read : Json → Option α) :
    Option (Option α) :=
  match member? name members with
  | none => some none
  | some .null => some none
  | some j => (read j).map some

/-- A field that may be absent, but not null. -/
def defaulted (members : List (String × Json)) (name : String) (default : α)
    (read : Json → Option α) : Option α :=
  match member? name members with
  | none => some default
  | some j => read j

/-- An object used as a table, with its member names as keys. The last member of a name counts. -/
def asTable? (read : Json → Option α) : Json → Option (Table String α)
  | .obj members => do
    let entries ← members.mapM fun (k, j) => (read j).map (k, ·)
    pure (Table.ofList entries)
  | _ => none

/-- The member of an optional field: none if there is no value. -/
def memberOf (name : String) (write : α → Json) : Option α → List (String × Json)
  | none => []
  | some a => [(name, write a)]

def ofOption (write : α → Json) : Option α → Json
  | none => .null
  | some a => write a

def ofTable (write : α → Json) (t : Table String α) : Json :=
  .obj (t.mapValues write).entries

def ofStrings (texts : List String) : Json := .arr (texts.map .str)

end HydrationPlan.Json
