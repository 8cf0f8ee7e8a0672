/-!
# Query paths

A path names a value that is reached from an object by following fields, as in `owner.id`. A path
read from a text or from a list has no empty segment; one that is extended with `child` may.
-/

namespace HydrationPlan

structure Path where
  segments : List String
  nonempty : segments ≠ []
deriving DecidableEq

namespace Path

inductive Error
  | noSegments
  | emptySegment (path : String)
  | emptyName
deriving DecidableEq, Repr

def Error.message : Error → String
  | noSegments => "query path must contain at least one field"
  | emptySegment path => "query path `" ++ path ++ "` contains an empty field name"
  | emptyName => "query path field name must not be empty"

instance : Inhabited Path := ⟨⟨[""], by simp⟩⟩

def joined (segments : List String) : String := ".".intercalate segments

def ofSegments (segments : List String) : Except Error Path :=
  if h : segments = [] then .error .noSegments
  else if segments.any String.isEmpty then .error (.emptySegment (joined segments))
  else .ok ⟨segments, h⟩

def field (name : String) : Except Error Path :=
  if name.isEmpty then .error .emptyName else .ok ⟨[name], by simp⟩

/-- The pieces of a text between its dots. -/
def pieces : List Char → List (List Char)
  | [] => [[]]
  | c :: cs =>
    if c = '.' then [] :: pieces cs
    else
      match pieces cs with
      | [] => [[c]]
      | p :: ps => (c :: p) :: ps

def parse (s : String) : Except Error Path :=
  if s.isEmpty then .error .noSegments
  else ofSegments ((pieces s.toList).map String.ofList)

def text (p : Path) : String := joined p.segments

def length (p : Path) : Nat := p.segments.length

def first (p : Path) : String := p.segments.head p.nonempty

def last (p : Path) : String := p.segments.getLast p.nonempty

def parents (p : Path) : List String := p.segments.dropLast

def child (p : Path) (name : String) : Path := ⟨p.segments ++ [name], by simp⟩

/-- Every path is a prefix of itself. -/
def isPrefixOf (p q : Path) : Bool := p.segments.isPrefixOf q.segments

def isStrictPrefixOf (p q : Path) : Bool := p.length < q.length && p.isPrefixOf q

/-- Segment by segment; a path comes before its extensions. -/
def compareSegments : List String → List String → Ordering
  | [], [] => .eq
  | [], _ :: _ => .lt
  | _ :: _, [] => .gt
  | a :: as, b :: bs => (Ord.compare a b).then (compareSegments as bs)

def compare (p q : Path) : Ordering := compareSegments p.segments q.segments

end Path

end HydrationPlan
