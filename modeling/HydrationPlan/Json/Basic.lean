/-!
# JSON documents

Whole numbers and floating-point numbers are kept apart, and an object keeps all its members in
written order, those of one name too. A well-formed value that cannot be held is `refused`: a number
beyond the largest finite one, a text that cannot be decoded, or a container nested too deeply. No
reader takes it for a value, but it does no harm where a member is passed over.
-/

namespace HydrationPlan

inductive Json
  | null
  | bool (b : Bool)
  | int (n : Int)
  | float (x : Float)
  | str (s : String)
  | arr (items : List Json)
  | obj (members : List (String × Json))
  | refused
deriving Inhabited

namespace Json

def asString? : Json → Option String
  | .str s => some s
  | _ => none

def asBool? : Json → Option Bool
  | .bool b => some b
  | _ => none

def asNat? (bound : Nat) : Json → Option Nat
  | .int n => if 0 ≤ n ∧ n < bound then some n.toNat else none
  | _ => none

def asUInt32? (j : Json) : Option UInt32 := (j.asNat? UInt32.size).map UInt32.ofNat

def asUInt64? (j : Json) : Option UInt64 := (j.asNat? UInt64.size).map UInt64.ofNat

def asList? {α : Type} (read : Json → Option α) : Json → Option (List α)
  | .arr items => items.mapM read
  | _ => none

def member? (name : String) : List (String × Json) → Option Json
  | [] => none
  | (k, v) :: rest => if k = name then some v else member? name rest

end Json

end HydrationPlan
