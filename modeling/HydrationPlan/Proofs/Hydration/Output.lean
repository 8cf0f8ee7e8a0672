import HydrationPlan.Hydration.Output

/-!
# What a declared type lets through

The output check asks every type that a backing field can return. What it asks depends on whether a
service defines the declared type, for unions as for objects.
-/

namespace HydrationPlan.Gateway

variable {g : Gateway} {declared actual : String} {u : UnionType}

theorem checkOutput_eq_ok_iff (g : Gateway) (declared backing : TypeRef) :
    g.checkOutput declared backing = .ok () ↔
      ∀ actual ∈ g.engine.possibleTypes backing.namedType,
        g.admits declared.namedType actual = true := by
  unfold checkOutput
  split
  · rename_i actual hfind
    have hrefused := List.find?_some hfind
    refine iff_of_false nofun fun h => ?_
    simp [h actual (List.mem_of_find?_eq_some hfind)] at hrefused
  · rename_i hfind
    simpa using List.find?_eq_none.mp hfind

theorem checkOutput_eq_error {declared backing : TypeRef} {r : Rejection}
    (h : g.checkOutput declared backing = .error r) :
    ∃ actual ∈ g.engine.possibleTypes backing.namedType,
      g.admits declared.namedType actual = false ∧
        r = .incompatibleOutputType actual declared.text := by
  unfold checkOutput at h
  split at h
  · rename_i actual hfind
    cases h
    have hrefused := List.find?_some hfind
    exact ⟨actual, List.mem_of_find?_eq_some hfind, by simpa using hrefused, rfl⟩
  · cases h

theorem admits_of_isVirtual (hv : g.isVirtual declared = true) :
    g.admits declared actual = g.engine.isObject actual := if_pos hv

theorem admits_union_iff (hu : g.engine.type? declared = some (.union u))
    (hv : g.isVirtual declared = false) :
    g.admits declared actual = true ↔ actual ∈ u.members ∨ actual = declared := by
  simp [admits, hv, Schema.isAbstract, Schema.possibleTypes, hu, or_comm]

theorem isObject_of_union (hu : g.engine.type? declared = some (.union u)) :
    g.engine.isObject declared = false := by
  simp [Schema.isObject, hu, TypeDefinition.isObject]

end HydrationPlan.Gateway
