import HydrationPlan.Json.Token

/-!
# Reading JSON

The tokens of a text are consumed one by one, with the unfinished arrays and objects on a stack. A
text that cannot be decoded is refused; as the name of a member, with its object.
-/

namespace HydrationPlan.Json

def ofText : Option String → Json
  | some s => .str s
  | none => .refused

/-- The members of an object, if all their names can be decoded. -/
abbrev Members := Option (List (String × Json))

namespace Members

def push (members : Members) (name : Option String) (v : Json) : Members := do
  pure ((← members) ++ [(← name, v)])

def close : Members → Json
  | some members => .obj members
  | none => .refused

end Members

inductive Frame
  | arr (reversed : List Json)
  | obj (members : Members) (name : Option String)

/-- What may come next: a value, a member name, or what follows a finished value. A closing
bracket may only come `first`, right after the opening one, or after a value. -/
inductive Awaiting
  | value (first : Bool)
  | name (members : Members) (first : Bool)
  | after (value : Json)

def build? : List Token → List Frame → Awaiting → Option Json
  | [], [], .after v => some v
  | .comma :: ts, .arr items :: frames, .after v =>
    build? ts (.arr (v :: items) :: frames) (.value false)
  | .closeArray :: ts, .arr items :: frames, .after v =>
    build? ts frames (.after (.arr (v :: items).reverse))
  | .comma :: ts, .obj members name :: frames, .after v =>
    build? ts frames (.name (members.push name v) false)
  | .closeObject :: ts, .obj members name :: frames, .after v =>
    build? ts frames (.after (members.push name v).close)
  | .text name :: .colon :: ts, frames, .name members _ =>
    build? ts (.obj members name :: frames) (.value false)
  | .closeObject :: ts, frames, .name members true => build? ts frames (.after members.close)
  | .openObject :: ts, frames, .value _ => build? ts frames (.name (some []) true)
  | .openArray :: ts, frames, .value _ => build? ts (.arr [] :: frames) (.value true)
  | .closeArray :: ts, .arr [] :: frames, .value true => build? ts frames (.after (.arr []))
  | .text s :: ts, frames, .value _ => build? ts frames (.after (ofText s))
  | .plain v :: ts, frames, .value _ => build? ts frames (.after v)
  | _, _, _ => none

def parse? (s : String) : Option Json := do
  build? (← tokens s.toList) [] (.value false)

end HydrationPlan.Json
