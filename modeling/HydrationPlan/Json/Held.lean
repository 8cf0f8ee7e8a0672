import HydrationPlan.Json.Basic

/-!
# Documents that can be held

A document is read as deep as its containers are nested, up to `deepest`; what lies deeper is
refused. A reader that needs all of a document asks first whether any part is refused.
-/

namespace HydrationPlan.Json

/-- The greatest nesting of containers in a document. -/
def deepest : Nat := 127

mutual

/-- Keeps containers up to the given depth and refuses those below. -/
def within (depth : Nat) : Json → Json
  | .arr items =>
    match depth with
    | 0 => .refused
    | depth + 1 => .arr (itemsWithin depth items)
  | .obj members =>
    match depth with
    | 0 => .refused
    | depth + 1 => .obj (membersWithin depth members)
  | j => j

def itemsWithin (depth : Nat) : List Json → List Json
  | [] => []
  | j :: rest => within depth j :: itemsWithin depth rest

def membersWithin (depth : Nat) : List (String × Json) → List (String × Json)
  | [] => []
  | (k, j) :: rest => (k, within depth j) :: membersWithin depth rest

end

mutual

def isHeld : Json → Bool
  | .refused => false
  | .arr items => areHeld items
  | .obj members => membersHeld members
  | _ => true

def areHeld : List Json → Bool
  | [] => true
  | j :: rest => isHeld j && areHeld rest

def membersHeld : List (String × Json) → Bool
  | [] => true
  | (_, j) :: rest => isHeld j && membersHeld rest

end

end HydrationPlan.Json
