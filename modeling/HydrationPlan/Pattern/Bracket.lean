import HydrationPlan.Pattern.Escape

/-!
# Bracketed sets

A bracketed set holds characters, ranges, named sets and further brackets, and three operations
between such unions. All operations bind alike and group to the left.
-/

namespace HydrationPlan.Pattern

def AsciiSet.ofName? : String → Option AsciiSet
  | "alnum" => some alnum
  | "alpha" => some alpha
  | "ascii" => some ascii
  | "blank" => some blank
  | "cntrl" => some cntrl
  | "digit" => some digit
  | "graph" => some graph
  | "lower" => some lower
  | "print" => some print
  | "punct" => some punct
  | "space" => some space
  | "upper" => some upper
  | "word" => some word
  | "xdigit" => some xdigit
  | _ => none

/-- A set whose closing bracket is awaited: what stands left of the last operation, and the parts
behind it in reverse order. -/
structure OpenSet where
  negated : Bool
  left : Option (CharSet × SetOperation)
  reversed : List CharSet

namespace OpenSet

def push (s : OpenSet) (part : CharSet) : OpenSet := { s with reversed := part :: s.reversed }

def operand (s : OpenSet) : CharSet :=
  let right := CharSet.ofParts s.reversed.reverse
  match s.left with
  | none => right
  | some (left, operation) => .combined operation left right

def operate (s : OpenSet) (operation : SetOperation) : OpenSet :=
  { s with left := some (s.operand, operation), reversed := [] }

def close (s : OpenSet) : CharSet := .bracketed s.negated s.operand

end OpenSet

/-- Opens a set behind its bracket. Hyphens at its start stand for themselves, and so does a
closing bracket if nothing is before it: no set is written empty. -/
def openSet (verbose : Bool) (text : List Char) : OpenSet × List Char :=
  let text := skipBlanks verbose text
  let (negated, text) :=
    match text with
    | '^' :: rest => (true, skipBlanks verbose rest)
    | text => (false, text)
  let literal := fun c => CharSet.literal ⟨c, false⟩
  match run verbose (· == '-') text with
  | ([], ']' :: rest) => (⟨negated, none, [literal ']']⟩, skipBlanks verbose rest)
  | (hyphens, rest) => (⟨negated, none, hyphens.map literal⟩, rest)

/-- A named ASCII set behind its opening bracket, as in `[:alpha:]`. -/
def asciiSet? : List Char → Option (CharSet × List Char)
  | ':' :: text =>
    let (negated, text) :=
      match text with
      | '^' :: rest => (true, rest)
      | text => (false, text)
    match text.dropWhile (· ≠ ':') with
    | ':' :: ']' :: rest =>
      (AsciiSet.ofName? (String.ofList (text.takeWhile (· ≠ ':')))).map
        fun set => (.ascii set negated, rest)
    | _ => none
  | _ => none

def unit? (verbose : Bool) (c : Char) (text : List Char) : Option (Primitive × List Char) :=
  if c = '\\' then escape? verbose text else some (.char c, text)

/-- The character behind blanks and at most one number sign. -/
def glance (verbose : Bool) (text : List Char) : Option Char :=
  if verbose then
    match text.dropWhile Text.isBlank with
    | '#' :: rest => (rest.dropWhile Text.isBlank).head?
    | text => text.head?
  else text.head?

/-- A single character, a range of them, or a set. A hyphen before a closing bracket or before
another hyphen makes no range. -/
def member? (verbose : Bool) (c : Char) (text : List Char) : Option (CharSet × List Char) := do
  let (first, text) ← unit? verbose c text
  match skipBlanks verbose text with
  | '-' :: behind =>
    if glance verbose behind = some ']' ∨ glance verbose behind = some '-' then
      pure (← first.asSet?, '-' :: behind)
    else
      match skipBlanks verbose behind with
      | [] => none
      | d :: text =>
        let (last, text) ← unit? verbose d text
        let low ← first.asLiteral?
        let high ← last.asLiteral?
        if low.char ≤ high.char then pure (.range low high, text) else none
  | text => pure (← first.asSet?, text)

/-- A step inside brackets. The state is the innermost open set and those around it. -/
def bracketStep (verbose : Bool) (state : OpenSet × List OpenSet) (c : Char)
    (text : List Char) : Option (Progress (OpenSet × List OpenSet) CharSet × List Char) :=
  let (current, outer) := state
  let go := fun (current : OpenSet) outer text =>
    some (.next (current, outer), skipBlanks verbose text)
  match c, text with
  | '[', _ =>
    match asciiSet? text with
    | some (set, text) => go (current.push set) outer text
    | none =>
      let (inner, text) := openSet verbose text
      go inner (current :: outer) text
  | ']', _ =>
    match outer with
    | [] => some (.done current.close, text)
    | parent :: outer => go (parent.push current.close) outer text
  | '&', '&' :: text => go (current.operate .intersection) outer text
  | '-', '-' :: text => go (current.operate .difference) outer text
  | '~', '~' :: text => go (current.operate .symmetricDifference) outer text
  | _, _ =>
    match member? verbose c text with
    | none => none
    | some (part, text) => go (current.push part) outer text

def bracketed? (verbose : Bool) (text : List Char) : Option (CharSet × List Char) :=
  let (first, text) := openSet verbose text
  scan (bracketStep verbose) (fun _ => none) (first, []) (skipBlanks verbose text)

end HydrationPlan.Pattern
