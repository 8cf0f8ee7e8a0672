import HydrationPlan.Proofs.NameKeyed

/-!
# Objects of an interface

The possible types of an interface are the objects that are defined to declare it. Where types are
stored under their own names, each of them is listed once and in table order.
-/

namespace HydrationPlan

namespace TypeDefinition

def declares (interface : String) : TypeDefinition → Bool
  | object t => t.implements.contains interface
  | _ => false

theorem declares_iff {interface : String} {d : TypeDefinition} :
    d.declares interface = true ↔ ∃ o, d = object o ∧ interface ∈ o.implements := by
  cases d <;> simp [declares]

end TypeDefinition

namespace Schema

variable {s : Schema} {name t : String}

theorem implementors_eq (s : Schema) (name : String) :
    s.implementors name = (s.types.values.filter (·.declares name)).map TypeDefinition.name := by
  rw [implementors, ← List.filterMap_eq_map, List.filterMap_filter]
  refine List.filterMap_congr fun d _ => ?_
  cases d <;> rfl

theorem mem_implementors_iff :
    t ∈ s.implementors name ↔
      ∃ o, .object o ∈ s.types.values ∧ name ∈ o.implements ∧ o.name = t := by
  simp only [implementors_eq, List.mem_map, List.mem_filter, TypeDefinition.declares_iff]
  constructor
  · rintro ⟨_, ⟨hd, o, rfl, hi⟩, rfl⟩
    exact ⟨o, hd, hi, rfl⟩
  · rintro ⟨o, ho, hi, rfl⟩
    exact ⟨.object o, ⟨ho, o, rfl, hi⟩, rfl⟩

theorem possibleTypes_of_interface {i : FieldedType} (h : s.type? name = some (.interface i)) :
    s.possibleTypes name = s.implementors name := by
  rw [possibleTypes, h]

/-- Each object that is defined to declare the interface is listed, once and in table order. -/
structure ListsObjects (s : Schema) (interface : String) : Prop where
  nodup : (s.possibleTypes interface).Nodup
  sublist : (s.possibleTypes interface).Sublist s.types.keys
  mem_iff (name : String) : name ∈ s.possibleTypes interface ↔
    ∃ o, s.type? name = some (.object o) ∧ interface ∈ o.implements

section Named

variable (hs : s.types.NamedBy TypeDefinition.name)
include hs

theorem mem_values_iff {d : TypeDefinition} :
    d ∈ s.types.values ↔ s.type? d.name = some d := by
  rw [type?, Table.get?_eq_some_iff]
  constructor
  · intro h
    obtain ⟨e, he, rfl⟩ := List.mem_map.mp h
    rwa [hs e he]
  · exact fun h => Table.mem_values_of_mem h

theorem implementors_sublist : (s.implementors name).Sublist s.types.keys := by
  rw [implementors_eq, ← hs.map_name_values]
  exact List.filter_sublist.map _

theorem listsObjects {i : FieldedType} (h : s.type? name = some (.interface i)) :
    s.ListsObjects name := by
  have hsub : (s.possibleTypes name).Sublist s.types.keys :=
    possibleTypes_of_interface h ▸ implementors_sublist hs
  refine ⟨hsub.nodup s.types.keys_nodup, hsub, fun t => ?_⟩
  rw [possibleTypes_of_interface h, mem_implementors_iff]
  constructor
  · rintro ⟨o, ho, hi, rfl⟩
    exact ⟨o, (mem_values_iff hs).mp ho, hi⟩
  · rintro ⟨o, ho, hi⟩
    have hname : o.name = t := hs.name_eq ho
    subst hname
    exact ⟨o, (mem_values_iff hs).mpr ho, hi, rfl⟩

end Named

end Schema

end HydrationPlan
