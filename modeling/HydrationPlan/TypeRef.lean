import HydrationPlan.Text.Blank

/-!
# Type references

A type is a name under list and nullability wrappers. In its notation a type is nullable unless it
is followed by `!`, so `[ID!]` is a nullable list of non-null ids.
-/

namespace HydrationPlan

inductive TypeRef
  | named (name : String)
  | nullable (inner : TypeRef)
  | list (element : TypeRef)
deriving DecidableEq, Repr, Inhabited

namespace TypeRef

def isNullable : TypeRef → Bool
  | nullable _ => true
  | _ => false

/-- The type without its outermost nullability. -/
def nonNull : TypeRef → TypeRef
  | nullable t => t
  | t => t

/-- The element type of a list, nullable or not. -/
def listElement? (t : TypeRef) : Option TypeRef :=
  match t.nonNull with
  | list e => some e
  | _ => none

def isList (t : TypeRef) : Bool := t.listElement?.isSome

def listDepth : TypeRef → Nat
  | named _ => 0
  | nullable t => t.listDepth
  | list e => e.listDepth + 1

def namedType : TypeRef → String
  | named n => n
  | nullable t => t.namedType
  | list e => e.namedType

theorem sizeOf_nonNull_le (t : TypeRef) : sizeOf t.nonNull ≤ sizeOf t := by
  cases t <;> simp [nonNull]

theorem sizeOf_lt_of_listElement {t e : TypeRef} (h : t.listElement? = some e) :
    sizeOf e.nonNull < sizeOf t := by
  have h1 := sizeOf_nonNull_le t
  have h2 := sizeOf_nonNull_le e
  unfold listElement? at h
  split at h
  · rename_i e' he
    cases h
    rw [he] at h1
    simp only [list.sizeOf_spec] at h1
    omega
  · simp at h

/-- The type below all list wrappers, each without its nullability. -/
def stripLists (t : TypeRef) : TypeRef :=
  match h : t.listElement? with
  | some e =>
    have := sizeOf_lt_of_listElement h
    stripLists e.nonNull
  | none => t
termination_by sizeOf t

/-! ## Notation -/

def mark (t : TypeRef) : String := if t.isNullable then "" else "!"

def core : TypeRef → String
  | named n => n
  | nullable t => t.core
  | list e => "[" ++ e.core ++ e.mark ++ "]"

def text (t : TypeRef) : String := t.core ++ t.mark

inductive Fault
  | empty
  | unclosedList
  | notAName
deriving DecidableEq, Repr

def Fault.reason : Fault → String
  | empty => "empty type"
  | unclosedList => "unclosed list"
  | notAName => "expected a type name"

structure ParseError where
  input : String
  fault : Fault
deriving DecidableEq, Repr

def ParseError.message (e : ParseError) : String :=
  "invalid type reference `" ++ e.input ++ "`: " ++ e.fault.reason

def isNameStart (c : Char) : Bool := c.isAlpha || c == '_'

def isNameRest (c : Char) : Bool := c.isAlphanum || c == '_'

def isName : List Char → Bool
  | [] => false
  | c :: cs => isNameStart c && cs.all isNameRest

/-- The notation without white space around it and without its mark, and whether there was one. -/
def stripMark (s : List Char) : List Char × Bool :=
  let body := Text.trim s
  if body.getLast? = some '!' then (Text.trimEnd body.dropLast, true) else (body, false)

theorem length_stripMark_le (s : List Char) : (stripMark s).1.length ≤ s.length := by
  have ht := Text.length_trim_le s
  unfold stripMark
  dsimp only
  split
  · have h1 := Text.length_trimEnd_le (Text.trim s).dropLast
    have h2 : (Text.trim s).dropLast.length ≤ (Text.trim s).length := by simp
    exact Nat.le_trans h1 (Nat.le_trans h2 ht)
  · exact ht

theorem length_of_stripMark {s rest : List Char} {c : Char} (h : (stripMark s).1 = c :: rest) :
    rest.length - 1 < s.length := by
  have := length_stripMark_le s
  simp only [h, List.length_cons] at this
  omega

def ofChars (s : List Char) : Except ParseError TypeRef :=
  let fail (fault : Fault) : Except ParseError TypeRef := .error ⟨String.ofList s, fault⟩
  if Text.trim s = [] then fail .empty
  else
    let wrap (t : TypeRef) : TypeRef := if (stripMark s).2 then t else nullable t
    match h : (stripMark s).1 with
    | '[' :: rest =>
      have := length_of_stripMark h
      if rest.getLast? = some ']' then
        match ofChars rest.dropLast with
        | .ok e => .ok (wrap (list e))
        | .error e => .error e
      else fail .unclosedList
    | name => if isName name then .ok (wrap (named (String.ofList name))) else fail .notAName
termination_by s.length

def parse (s : String) : Except ParseError TypeRef := ofChars s.toList

end TypeRef

end HydrationPlan
