import HydrationPlan.Json.Basic
import HydrationPlan.Decimal.Layout

/-!
# Writing JSON

`compress` writes a document on one line; `pretty` writes one member or item a line, indented by
two spaces a level. Both agree up to white space between tokens.
-/

namespace HydrationPlan.Json

/-- Numbers from `10^-5` up to `10^16` are written positionally, and a whole number shows its
fraction; an exponent carries its sign. -/
def floatLayout : Decimal.Layout where
  tie := .even
  positional point := -5 < point && point ≤ 16
  wholeSuffix := ".0"
  plus := "+"

def hexDigits (n : Nat) : List Char :=
  let digits := Nat.toDigits 16 n
  List.replicate (4 - digits.length) '0' ++ digits

def escapeChar (c : Char) : List Char :=
  if c = '"' then ['\\', '"']
  else if c = '\\' then ['\\', '\\']
  else if c = '\x08' then ['\\', 'b']
  else if c = '\x0c' then ['\\', 'f']
  else if c = '\n' then ['\\', 'n']
  else if c = '\r' then ['\\', 'r']
  else if c = '\t' then ['\\', 't']
  else if c.toNat < 0x20 then '\\' :: 'u' :: hexDigits c.toNat
  else [c]

def textLiteral (s : String) : String :=
  String.ofList ('"' :: (s.toList.flatMap escapeChar ++ ['"']))

/-- There is no number for an infinite value; it is written as null, like a refused one. -/
def floatLiteral (x : Float) : String := if x.isFinite then floatLayout.ofFloat x else "null"

mutual

def compress : Json → String
  | .null => "null"
  | .bool b => if b then "true" else "false"
  | .int n => toString n
  | .float x => floatLiteral x
  | .str s => textLiteral s
  | .arr items => "[" ++ ",".intercalate (compressItems items) ++ "]"
  | .obj members => "\x7b" ++ ",".intercalate (compressMembers members) ++ "\x7d"
  | .refused => "null"

def compressItems : List Json → List String
  | [] => []
  | j :: rest => compress j :: compressItems rest

def compressMembers : List (String × Json) → List String
  | [] => []
  | (k, j) :: rest => (textLiteral k ++ ":" ++ compress j) :: compressMembers rest

end

def block (opening closing indent : String) (parts : List String) : String :=
  match parts with
  | [] => opening ++ closing
  | _ =>
    let inner := "\n" ++ indent ++ "  "
    opening ++ inner ++ ("," ++ inner).intercalate parts ++ "\n" ++ indent ++ closing

mutual

def prettyAt (indent : String) : Json → String
  | .arr items => block "[" "]" indent (prettyItems (indent ++ "  ") items)
  | .obj members => block "\x7b" "\x7d" indent (prettyMembers (indent ++ "  ") members)
  | j => compress j

def prettyItems (indent : String) : List Json → List String
  | [] => []
  | j :: rest => prettyAt indent j :: prettyItems indent rest

def prettyMembers (indent : String) : List (String × Json) → List String
  | [] => []
  | (k, j) :: rest => (textLiteral k ++ ": " ++ prettyAt indent j) :: prettyMembers indent rest

end

def pretty (j : Json) : String := prettyAt "" j

end HydrationPlan.Json
