import HydrationPlan.Decimal.Layout
import HydrationPlan.Text.Quoted

/-!
# Literals

Values written in a schema: argument values of a directive, defaults, and the operand of a
condition. An object keeps its entries in written order.
-/

namespace HydrationPlan

inductive Literal
  | null
  | boolean (b : Bool)
  | int (n : Int64)
  | float (x : Float)
  | string (s : String)
  | list (items : List Literal)
  | object (entries : List (String × Literal))
  | enum (name : String)
deriving Inhabited

namespace Literal

def isNull : Literal → Bool
  | null => true
  | _ => false

def asString? : Literal → Option String
  | string s => some s
  | _ => none

def kind : Literal → String
  | null => "null"
  | boolean _ => "boolean"
  | int _ => "integer"
  | float _ => "float"
  | string _ => "string"
  | list _ => "list"
  | object _ => "object"
  | enum _ => "enum"

/-- A float is written positionally with its shortest digits; a whole number shows no fraction. -/
def floatLayout : Decimal.Layout where
  tie := .up
  positional _ := true
  wholeSuffix := ""
  plus := ""

mutual

def text : Literal → String
  | null => "null"
  | boolean b => if b then "true" else "false"
  | int n => toString n.toInt
  | float x => floatLayout.ofFloat x
  | string s => Text.quoted s
  | enum name => name
  | list items => "[" ++ ", ".intercalate (textItems items) ++ "]"
  | object entries => "\x7b" ++ ",".intercalate (textEntries entries) ++ " \x7d"

def textItems : List Literal → List String
  | [] => []
  | v :: rest => text v :: textItems rest

def textEntries : List (String × Literal) → List String
  | [] => []
  | (k, v) :: rest => (" " ++ k ++ ": " ++ text v) :: textEntries rest

end

def lookup? (name : String) : List (String × Literal) → Option Literal
  | [] => none
  | (k, v) :: rest => if k = name then some v else lookup? name rest

end Literal

end HydrationPlan
