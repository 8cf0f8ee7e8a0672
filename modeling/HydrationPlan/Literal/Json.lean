import HydrationPlan.Literal.Basic
import HydrationPlan.Json.Basic
import HydrationPlan.Table

/-!
# Literals in JSON

Enum literals have no form of their own in JSON: they are written as strings and read back as
strings. A whole number beyond 64 bits with sign is read as a float. Every document of which no
part is refused is a literal; of the members of one name the last counts.
-/

namespace HydrationPlan.Literal

/-- The nearest float to a whole number of at most 64 bits. -/
def floatOfInt (n : Int) : Float :=
  if n < 0 then -(UInt64.ofNat n.natAbs).toFloat else (UInt64.ofNat n.toNat).toFloat

def ofInt (n : Int) : Literal :=
  if Int64.minValue.toInt ≤ n ∧ n ≤ Int64.maxValue.toInt then int (Int64.ofInt n)
  else float (floatOfInt n)

mutual

def ofJson? : Json → Option Literal
  | .null => some null
  | .bool b => some (boolean b)
  | .int n => some (ofInt n)
  | .float x => some (float x)
  | .str s => some (string s)
  | .arr items => (ofJsonItems? items).map list
  | .obj members =>
    (ofJsonMembers? members).map fun entries => object (Table.ofList entries).entries
  | .refused => none

def ofJsonItems? : List Json → Option (List Literal)
  | [] => some []
  | j :: rest => do
    let v ← ofJson? j
    pure (v :: (← ofJsonItems? rest))

def ofJsonMembers? : List (String × Json) → Option (List (String × Literal))
  | [] => some []
  | (k, j) :: rest => do
    let v ← ofJson? j
    pure ((k, v) :: (← ofJsonMembers? rest))

end

mutual

def toJson : Literal → Json
  | null => .null
  | boolean b => .bool b
  | int n => .int n.toInt
  | float x => .float x
  | string s => .str s
  | enum name => .str name
  | list items => .arr (toJsonItems items)
  | object entries => .obj (toJsonEntries entries)

def toJsonItems : List Literal → List Json
  | [] => []
  | v :: rest => toJson v :: toJsonItems rest

def toJsonEntries : List (String × Literal) → List (String × Json)
  | [] => []
  | (k, v) :: rest => (k, toJson v) :: toJsonEntries rest

end

end HydrationPlan.Literal
