import HydrationPlan.Json.Reader

/-!
# Building a value from tokens

What each token does to the unfinished arrays and objects. A value that is finished with nothing
around it ends the document.
-/

namespace HydrationPlan.Json

section Steps

variable {us : List Token} {frames : List Frame} {first : Bool} {v : Json}

theorem build?_finished : build? [] [] (.after v) = some v := rfl

theorem build?_plain :
    build? (.plain v :: us) frames (.value first) = build? us frames (.after v) := rfl

theorem build?_text {s : Option String} :
    build? (.text s :: us) frames (.value first) = build? us frames (.after (ofText s)) := by
  cases us with
  | nil => rfl
  | cons t us => cases t <;> rfl

variable {items : List Json}

theorem build?_openArray :
    build? (.openArray :: us) frames (.value first) =
      build? us (.arr [] :: frames) (.value true) := rfl

theorem build?_emptyArray :
    build? (.closeArray :: us) (.arr [] :: frames) (.value true) =
      build? us frames (.after (.arr [])) := rfl

theorem build?_nextItem :
    build? (.comma :: us) (.arr items :: frames) (.after v) =
      build? us (.arr (v :: items) :: frames) (.value false) := rfl

theorem build?_closeArray :
    build? (.closeArray :: us) (.arr items :: frames) (.after v) =
      build? us frames (.after (.arr (v :: items).reverse)) := rfl

variable {members : Members} {name : Option String}

theorem build?_openObject :
    build? (.openObject :: us) frames (.value first) =
      build? us frames (.name (some []) true) := rfl

theorem build?_emptyObject :
    build? (.closeObject :: us) frames (.name members true) =
      build? us frames (.after members.close) := by
  rcases frames with _ | ⟨_ | _, frames⟩ <;> rfl

theorem build?_name :
    build? (.text name :: .colon :: us) frames (.name members first) =
      build? us (.obj members name :: frames) (.value false) := rfl

theorem build?_nextMember :
    build? (.comma :: us) (.obj members name :: frames) (.after v) =
      build? us frames (.name (members.push name v) false) := rfl

theorem build?_closeObject :
    build? (.closeObject :: us) (.obj members name :: frames) (.after v) =
      build? us frames (.after (members.push name v).close) := rfl

theorem build?_beyond (t : Token) : build? (t :: us) [] (.after v) = none := by
  cases t with
  | text s =>
    cases us with
    | nil => rfl
    | cons u us => cases u <;> rfl
  | _ => rfl

end Steps

theorem eq_nil_of_build? {ts : List Token} {v w : Json} (h : build? ts [] (.after v) = some w) :
    ts = [] ∧ v = w := by
  cases ts with
  | nil => exact ⟨rfl, Option.some.inj h⟩
  | cons t us =>
    rw [build?_beyond] at h
    cases h

theorem parse?_eq_some {s : String} {j : Json} (h : parse? s = some j) :
    ∃ ts, tokens s.toList = some ts ∧ build? ts [] (.value false) = some j :=
  Option.bind_eq_some_iff.mp h

end HydrationPlan.Json
