import HydrationPlan.Proofs.Json.FloatText

/-!
# Reading a document back

The tokens that a document is written with build that document again.
-/

namespace HydrationPlan.Json

/-- The tokens build the value wherever a value is awaited. -/
def Builds (ts : List Token) (v : Json) : Prop :=
  ∀ us frames first, build? (ts ++ us) frames (.value first) = build? us frames (.after v)

theorem builds_plain (v : Json) : Builds [.plain v] v := by
  intro us frames first
  rw [List.singleton_append, build?_plain]

theorem builds_text (s : String) : Builds [.text (some s)] (.str s) := by
  intro us frames first
  rw [List.singleton_append, build?_text, ofText]

theorem build?_items {α : Type} {cut : α → List Token} {value : α → Json} {l : List α}
    (h : ∀ a ∈ l, Builds (cut a) (value a)) (hne : l ≠ []) (acc : List Json) (us : List Token)
    (frames : List Frame) (first : Bool) :
    build? ([Token.comma].intercalate (l.map cut) ++ .closeArray :: us) (.arr acc :: frames)
      (.value first) = build? us frames (.after (.arr (acc.reverse ++ l.map value))) := by
  induction l generalizing acc first with
  | nil => exact absurd rfl hne
  | cons a l ih =>
    rw [List.forall_mem_cons] at h
    cases l with
    | nil =>
      rw [List.map_singleton, List.intercalate_singleton, h.1, build?_closeArray,
        List.reverse_cons]
      rfl
    | cons b l =>
      simp only [List.map_cons] at ih ⊢
      rw [List.intercalate_cons_cons, List.append_assoc, List.append_assoc, h.1,
        List.singleton_append, build?_nextItem, ih h.2 (List.cons_ne_nil b l), List.reverse_cons,
        List.append_assoc]
      rfl

theorem build?_members {members : List (String × Json)} (h : ∀ e ∈ members, Builds (cut e.2) e.2)
    (hne : members ≠ []) (acc : List (String × Json)) (us : List Token) (frames : List Frame)
    (first : Bool) :
    build? ([Token.comma].intercalate
        (members.map fun e => .text (some e.1) :: .colon :: cut e.2) ++ .closeObject :: us)
      frames (.name (some acc) first) =
    build? us frames (.after (.obj (acc ++ members))) := by
  induction members generalizing acc first with
  | nil => exact absurd rfl hne
  | cons e members ih =>
    rw [List.forall_mem_cons] at h
    have hpush : Members.push (some acc) (some e.1) e.2 = some (acc ++ [e]) := rfl
    cases members with
    | nil =>
      rw [List.map_singleton, List.intercalate_singleton, List.cons_append, List.cons_append,
        build?_name, h.1, build?_closeObject, hpush]
      rfl
    | cons e' members =>
      simp only [List.map_cons] at ih ⊢
      rw [List.intercalate_cons_cons, List.append_assoc, List.append_assoc, List.cons_append,
        List.cons_append, build?_name, h.1, List.singleton_append, build?_nextMember, hpush,
        ih h.2 (List.cons_ne_nil e' members), List.append_assoc]
      rfl

theorem builds_cut {F : Float → Prop} {j : Json} (h : j.Printable F) : Builds (cut j) j := by
  induction j using contentInduction with
  | str s => exact builds_text s
  | arr items ih =>
    rw [printable_arr_iff] at h
    intro us frames first
    rw [cut, cutItems_eq_map, List.cons_append, List.append_assoc, build?_openArray]
    cases items with
    | nil => exact build?_emptyArray
    | cons j items =>
      have hitems : ∀ i ∈ j :: items, Builds (cut i) (id i) := fun i hi => ih i hi (h i hi)
      refine (build?_items hitems (List.cons_ne_nil j items) [] us frames true).trans ?_
      rw [List.reverse_nil, List.nil_append, List.map_id]
  | obj members ih =>
    rw [printable_obj_iff] at h
    intro us frames first
    rw [cut, cutMembers_eq_map, List.cons_append, List.append_assoc, build?_openObject]
    cases members with
    | nil => exact build?_emptyObject
    | cons e members =>
      have hmembers : ∀ m ∈ e :: members, Builds (cut m.2) m.2 := fun m hm => ih m hm (h m hm)
      exact build?_members hmembers (List.cons_ne_nil e members) [] us frames true
  | refused => exact absurd h.held Bool.false_ne_true
  | _ => exact builds_plain _

/-- A document is read back from the line it is written on. -/
theorem parse?_compress {j : Json} (h : j.Printable ReadsBack) : parse? j.compress = some j := by
  have htokens : tokens j.compress.toList = some (cut j) := by
    have hlexes := lexes_compress (fun x hx => isNumeral_of_readsBack hx) h [] nofun
    rw [List.append_nil, tokens_nil, Option.map_some, List.append_nil] at hlexes
    exact hlexes
  have hbuild : build? (cut j ++ []) [] (.value false) = some j := by
    rw [builds_cut h, build?_finished]
  rw [List.append_nil] at hbuild
  rw [parse?, htokens]
  exact hbuild

end HydrationPlan.Json
