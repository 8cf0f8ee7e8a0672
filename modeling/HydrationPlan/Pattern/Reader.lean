import HydrationPlan.Pattern.Bracket
import HydrationPlan.Text.Letter

/-!
# Reading patterns

A pattern is read from left to right, with the unfinished groups on a stack. The flag `verbose`
changes how the rest of its group is read.
-/

namespace HydrationPlan.Pattern

/-- The branches before the last bar and the parts behind it, both in reverse order. -/
structure Level where
  branches : List Expr
  parts : List Expr

namespace Level

def empty : Level := ⟨[], []⟩

def push (level : Level) (part : Expr) : Level := { level with parts := part :: level.parts }

def branch (level : Level) : Level :=
  ⟨Expr.ofParts level.parts.reverse :: level.branches, []⟩

def close (level : Level) : Expr := Expr.ofBranches level.branch.branches.reverse

/-- Repeats the last part. Flags and the start of a branch cannot be repeated. -/
def repeat? (level : Level) (count : Count) (isLazy : Bool) : Option Level :=
  match level.parts with
  | [] | .flags _ :: _ => none
  | part :: parts => some { level with parts := .repetition count isLazy part :: parts }

end Level

/-- A group whose closing parenthesis is awaited, with what is outside. -/
structure OpenGroup where
  outside : Level
  verboseOutside : Bool
  capture : Option Nat
  change : FlagChange

/-- What has been read: the innermost level, the open groups around it, the number of captures and
the names of those that have one. -/
structure Reading where
  level : Level
  groups : List OpenGroup
  verbose : Bool
  captures : Nat
  names : List String

def Flag.ofLetter? : Char → Option Flag
  | 'i' => some ignoreCase
  | 'm' => some multiLine
  | 's' => some dotMatchesNewline
  | 'U' => some swapGreed
  | 'u' => some unicode
  | 'R' => some carriageReturns
  | 'x' => some verbose
  | _ => none

/-- Reads flags up to a colon or a closing parenthesis, which is returned with them. No flag
stands twice, and one minus sign at most, which must have a flag behind it. -/
def flagChange? (change : FlagChange) (minus : Bool) :
    List Char → Option (FlagChange × Char × List Char)
  | [] => none
  | c :: text =>
    if c = ':' ∨ c = ')' then
      if minus ∧ change.off = [] then none else some (change, c, text)
    else if c = '-' then
      if minus then none else flagChange? change true text
    else
      match Flag.ofLetter? c with
      | none => none
      | some flag =>
        if flag ∈ change.on ∨ flag ∈ change.off then none
        else if minus then flagChange? { change with off := flag :: change.off } true text
        else flagChange? { change with on := flag :: change.on } false text

def isGroupName : List Char → Bool
  | [] => false
  | c :: rest =>
    (c == '_' || Text.isAlphabetic c) &&
      rest.all fun c =>
        c == '_' || c == '.' || c == '[' || c == ']' || Text.isAlphabetic c || Text.isNumeric c

namespace Reading

def start : Reading := ⟨.empty, [], false, 0, []⟩

def push (r : Reading) (part : Expr) : Reading := { r with level := r.level.push part }

def openGroup (r : Reading) (change : FlagChange) : Reading :=
  { r with
    level := .empty
    groups := ⟨r.level, r.verbose, none, change⟩ :: r.groups
    verbose := change.apply .verbose r.verbose }

def openCapture (r : Reading) : Reading :=
  { r with
    level := .empty
    groups := ⟨r.level, r.verbose, some (r.captures + 1), .none⟩ :: r.groups
    captures := r.captures + 1 }

/-- Group names are distinct. -/
def openNamed? (r : Reading) (text : List Char) : Option (Reading × List Char) :=
  let name := String.ofList (text.takeWhile (· ≠ '>'))
  match text.dropWhile (· ≠ '>') with
  | [] => none
  | _ :: rest =>
    if isGroupName name.toList ∧ name ∉ r.names then
      some ({ r.openCapture with names := name :: r.names }, rest)
    else none

/-- Reads what opens a group, or changes the flags of the group that is open. There is no looking
around: an equals sign or an exclamation mark is neither a flag nor part of a name. -/
def open? (r : Reading) (text : List Char) : Option (Reading × List Char) :=
  match skipBlanks r.verbose text with
  | '?' :: 'P' :: '<' :: text => r.openNamed? text
  | '?' :: '<' :: text => r.openNamed? text
  | '?' :: text =>
    match flagChange? .none false text with
    | none => none
    | some (change, ')', text) =>
      if change = .none then none
      else
        some ({ r.push (.flags change) with verbose := change.apply .verbose r.verbose }, text)
    | some (change, _, text) => some (r.openGroup change, text)
  | text => some (r.openCapture, text)

def close? (r : Reading) : Option Reading :=
  match r.groups with
  | [] => none
  | g :: groups =>
    some { r with
      level := g.outside.push (.group g.capture g.change r.level.close)
      groups := groups
      verbose := g.verboseOutside }

/-- Repeats the last part. A question mark behind the repetition makes it lazy. -/
def repeat? (r : Reading) (count : Count) (text : List Char) : Option (Reading × List Char) :=
  let (isLazy, text) :=
    match text with
    | '?' :: text => (true, text)
    | text => (false, text)
  (r.level.repeat? count isLazy).map fun level => ({ r with level := level }, text)

def finish? (r : Reading) : Option Expr :=
  if r.groups.isEmpty then some r.level.close else none

end Reading

/-- A decimal number below `2 ^ 32`, with blanks around it. -/
def decimal? (verbose : Bool) (text : List Char) : Option (Nat × List Char) :=
  let (digits, rest) := run verbose Char.isDigit (text.dropWhile Text.isBlank)
  let n := Text.ofDigits 10 (digits.map fun c => c.toNat - '0'.toNat)
  if digits.isEmpty ∨ UInt32.size ≤ n then none else some (n, rest.dropWhile Text.isBlank)

/-- A count in braces, behind the opening one. -/
def count? (verbose : Bool) (text : List Char) : Option (Count × List Char) := do
  let (least, text) ← decimal? verbose (skipBlanks verbose text)
  match text with
  | '}' :: text => pure (⟨least, some least⟩, text)
  | ',' :: text =>
    match skipBlanks verbose text with
    | '}' :: text => pure (⟨least, none⟩, text)
    | text =>
      match ← decimal? verbose text with
      | (greatest, '}' :: text) =>
        if least ≤ greatest then pure (⟨least, some greatest⟩, text) else none
      | _ => none
  | _ => none

def readPart? (r : Reading) (c : Char) (text : List Char) : Option (Reading × List Char) :=
  match c with
  | '(' => r.open? text
  | ')' => r.close?.map (·, text)
  | '|' => some ({ r with level := r.level.branch }, text)
  | '[' => (bracketed? r.verbose text).map fun (s, text) => (r.push (.set s), text)
  | '?' => r.repeat? ⟨0, some 1⟩ text
  | '*' => r.repeat? ⟨0, none⟩ text
  | '+' => r.repeat? ⟨1, none⟩ text
  | '{' => do
    let (count, text) ← count? r.verbose text
    r.repeat? count (skipBlanks r.verbose text)
  | '\\' => (escape? r.verbose text).map fun (p, text) => (r.push p.asExpr, text)
  | '.' => some (r.push .anyChar, text)
  | '^' => some (r.push (.position .lineStart), text)
  | '$' => some (r.push (.position .lineEnd), text)
  | c => some (r.push (.literal ⟨c, false⟩), text)

def readStep (r : Reading) (c : Char) (text : List Char) :
    Option (Progress Reading Expr × List Char) :=
  (readPart? r c text).map fun (r, text) => (.next r, skipBlanks r.verbose text)

def read? (pattern : String) : Option Expr :=
  (scan readStep Reading.finish? .start pattern.toList).map (·.1)

end HydrationPlan.Pattern
