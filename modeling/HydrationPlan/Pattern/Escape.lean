import HydrationPlan.Pattern.Basic
import HydrationPlan.Pattern.Scan
import HydrationPlan.Text.Hex

/-!
# Escapes

What stands behind a backslash: a character by its code or by a letter, a sign without its special
meaning, a position, or a set of characters. References to groups are not supported.
-/

namespace HydrationPlan.Pattern

/-- The smallest parts of a pattern. -/
inductive Primitive
  | literal (l : CharLiteral)
  | position (p : Position)
  | set (s : CharSet)

namespace Primitive

def char (c : Char) : Primitive := literal ⟨c, false⟩

def asExpr : Primitive → Expr
  | literal l => .literal l
  | position p => .position p
  | set s => .set s

/-- A part of a bracketed set cannot be a position. -/
def asSet? : Primitive → Option CharSet
  | literal l => some (.literal l)
  | set s => some s
  | position _ => none

def asLiteral? : Primitive → Option CharLiteral
  | literal l => some l
  | _ => none

end Primitive

/-- The character with a code; surrogates are none. -/
def scalar? (n : Nat) : Option Char :=
  if h : n.isValidChar then some (Char.ofNatAux n h) else none

def hexDigits? (verbose : Bool) : Nat → List Char → Option (List Nat × List Char)
  | 0, text => some ([], text)
  | _ + 1, [] => none
  | n + 1, c :: rest => do
    let digit ← Text.hexValue? c
    let (digits, rest) ← hexDigits? verbose n (skipBlanks verbose rest)
    pure (digit :: digits, rest)

/-- A code in `width` digits, or in braces in any number of them. -/
def hexEscape? (verbose : Bool) (width : Nat) (text : List Char) :
    Option (Primitive × List Char) :=
  match skipBlanks verbose text with
  | '{' :: text => do
    let (digits, rest) ← braced? verbose text
    if digits.isEmpty then none
    else do
      let c ← scalar? (Text.ofDigits 16 (← digits.mapM Text.hexValue?))
      pure (.char c, rest)
  | text => do
    let (digits, rest) ← hexDigits? verbose width text
    let c ← scalar? (Text.ofDigits 16 digits)
    pure (.literal ⟨c, width == 2⟩, rest)

def splitAt? (mark : List Char) : List Char → Option (List Char × List Char)
  | [] => none
  | c :: rest =>
    if mark.isPrefixOf (c :: rest) then some ([], rest.drop (mark.length - 1))
    else (splitAt? mark rest).map fun (before, behind) => (c :: before, behind)

/-- A property in braces. The name and the value are parted by `!=`, `:` or `=`, which all mean the
same. -/
def propertyQuery (text : List Char) : PropertyQuery :=
  match splitAt? ['!', '='] text <|> splitAt? [':'] text <|> splitAt? ['='] text with
  | some (name, value) => .valued (String.ofList name) (String.ofList value)
  | none => .named (String.ofList text)

def propertyEscape? (verbose negated : Bool) (text : List Char) :
    Option (Primitive × List Char) :=
  match skipBlanks verbose text with
  | [] | '\\' :: _ => none
  | '{' :: text => do
    let (name, rest) ← braced? verbose text
    pure (.set (.property (propertyQuery name) negated), rest)
  | c :: rest => some (.set (.property (.named (String.singleton c)) negated), rest)

def isBoundaryChar (c : Char) : Bool := c.isAlpha || c == '-'

def WordBorder.ofName? : String → Option WordBorder
  | "start" => some start
  | "end" => some ending
  | "start-half" => some startHalf
  | "end-half" => some endHalf
  | _ => none

namespace Primitive

def border (b : WordBorder) : Primitive := position (.word b)

end Primitive

/-- A word boundary may have its kind in braces. Braces that do not start with a name are left to
be read as a count. -/
def boundaryEscape? (verbose : Bool) : List Char → Option (Primitive × List Char)
  | '{' :: text =>
    match skipBlanks verbose text with
    | [] => none
    | c :: rest =>
      if isBoundaryChar c then
        match run verbose isBoundaryChar (c :: rest) with
        | (name, '}' :: rest) =>
          (WordBorder.ofName? (String.ofList name)).map fun b => (.border b, rest)
        | _ => none
      else some (.border .either, '{' :: text)
  | text => some (.border .either, text)

/-- The control characters that have a letter, and the signs that stand for themselves. -/
def plainEscape? : Char → Option Char
  | 'a' => some '\x07'
  | 'f' => some '\x0c'
  | 't' => some '\t'
  | 'n' => some '\n'
  | 'r' => some '\r'
  | 'v' => some '\x0b'
  | c => if c.toNat < 128 ∧ !c.isAlphanum then some c else none

def escape? (verbose : Bool) : List Char → Option (Primitive × List Char)
  | [] => none
  | 'x' :: text => hexEscape? verbose 2 text
  | 'u' :: text => hexEscape? verbose 4 text
  | 'U' :: text => hexEscape? verbose 8 text
  | 'p' :: text => propertyEscape? verbose false text
  | 'P' :: text => propertyEscape? verbose true text
  | 'd' :: text => some (.set (.shorthand .digit false), text)
  | 'D' :: text => some (.set (.shorthand .digit true), text)
  | 's' :: text => some (.set (.shorthand .space false), text)
  | 'S' :: text => some (.set (.shorthand .space true), text)
  | 'w' :: text => some (.set (.shorthand .word false), text)
  | 'W' :: text => some (.set (.shorthand .word true), text)
  | 'b' :: text => boundaryEscape? verbose text
  | 'B' :: text => some (.border .neither, text)
  | '<' :: text => some (.border .start, text)
  | '>' :: text => some (.border .ending, text)
  | 'A' :: text => some (.position .textStart, text)
  | 'z' :: text => some (.position .textEnd, text)
  | c :: text => (plainEscape? c).map fun c => (.char c, text)

end HydrationPlan.Pattern
