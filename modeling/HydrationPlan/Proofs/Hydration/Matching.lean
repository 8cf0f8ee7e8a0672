import HydrationPlan.Hydration.Matching
import HydrationPlan.Proofs.Checked
import HydrationPlan.Proofs.Path

/-!
# How batch results are matched

The match of results is told by the declaration and the correlation key alone. Once there is a key,
resolving it can only fail on what the declaration says about identifiers.
-/

namespace HydrationPlan

/-- The identifier is what the pair names: it extends the key and exists on the source. -/
structure Site.Identifies (s : Site) (key : Path) (p : IdentifierPair) (id : Identifier) :
    Prop where
  parsed : Path.parse p.sourceId = .ok id.sourceId
  resultId : id.resultId = p.resultId
  extendsKey : key.segments <+: id.sourceId.segments
  resolves : (s.sourceField? id.sourceId).isSome

namespace Matching

variable {s : Site} {d : Declaration} {key : Path} {args : List Argument} {m : Matching}

/-- The match that a declaration asks for. An index comes first, then pairs of identifiers. -/
inductive Declared (s : Site) (d : Declaration) (key : Path) : Matching → Prop
  | index (hindexed : d.indexed = true) : Declared s d key index
  | identifiers {ids : List Identifier} (hindexed : d.indexed = false)
      (hpairs : d.inputIdentifiedBy ≠ [])
      (hids : List.Forall₂ (s.Identifies key) d.inputIdentifiedBy ids) :
      Declared s d key (identifiers ids)
  | identifier {resultId : String} (hindexed : d.indexed = false)
      (hpairs : d.inputIdentifiedBy = []) (hresult : d.identifiedBy = some resultId) :
      Declared s d key (identifier ⟨key, resultId⟩)

theorem resolveIdentifier_eq_ok_iff {p : IdentifierPair} {id : Identifier} :
    resolveIdentifier s key p = .ok id ↔ s.Identifies key p id := by
  unfold resolveIdentifier
  constructor
  · intro h
    split at h
    · cases h
    · rename_i path hpath
      split at h
      · cases h
      · rename_i hkey
        split at h
        · cases h
        · rename_i hfield
          cases h
          refine ⟨hpath, rfl, ?_, ?_⟩
          · exact Path.isPrefixOf_iff.mp (by simpa using hkey)
          · simpa [Option.isSome_iff_ne_none] using hfield
  · intro h
    obtain ⟨sourceId, resultId⟩ := id
    obtain ⟨hparsed, rfl, hkey, hfield⟩ := h
    have hsub : key.isPrefixOf sourceId = true := Path.isPrefixOf_iff.mpr hkey
    have hfound : (s.sourceField? sourceId).isNone = false := Option.isNone_eq_false_iff.mpr hfield
    simp only [hparsed, hsub, hfound, Bool.not_true, Bool.false_eq_true, if_false]

theorem resolve_eq_ok_iff (hkey : batchKey? args = some key) :
    resolve s d args = .ok m ↔ Declared s d key m := by
  unfold resolve
  rw [hkey]
  constructor
  · intro h
    split at h
    · rename_i hindexed
      cases h
      exact .index hindexed
    · rename_i hindexed
      rw [Bool.not_eq_true] at hindexed
      dsimp only at h
      split at h
      · rename_i hpairs
        obtain ⟨ids, hids, rfl⟩ := map_eq_ok_iff.mp h
        refine .identifiers hindexed (by simpa using hpairs) ?_
        exact (mapM_eq_ok_iff.mp hids).imp fun p id hid => resolveIdentifier_eq_ok_iff.mp hid
      · rename_i hpairs
        split at h
        · rename_i resultId hresult
          cases h
          exact .identifier hindexed (by simpa using hpairs) hresult
        · cases h
  · intro h
    cases h with
    | index hindexed => rw [if_pos hindexed]
    | identifiers hindexed hpairs hids =>
      have hresolved := mapM_eq_ok_iff.mpr
        (hids.imp fun p id hid => resolveIdentifier_eq_ok_iff.mpr hid)
      simp [hindexed, hpairs, hresolved, Except.map]
    | identifier hindexed hpairs hresult => simp [hindexed, hpairs, hresult]

theorem resolveIdentifier_ne_missingSourceField {p : IdentifierPair} :
    resolveIdentifier s key p ≠ .error .missingSourceField := by
  unfold resolveIdentifier
  split
  · simp
  · split
    · simp
    · split <;> simp

/-- With a correlation key at hand, a value from the source is not found missing. -/
theorem resolve_ne_missingSourceField (hkey : batchKey? args = some key) :
    resolve s d args ≠ .error .missingSourceField := by
  intro h
  unfold resolve at h
  rw [hkey] at h
  split at h
  · cases h
  · dsimp only at h
    split at h
    · obtain ⟨p, -, hp⟩ := exists_of_mapM_eq_error (map_eq_error_iff.mp h)
      exact resolveIdentifier_ne_missingSourceField hp
    · split at h <;> cases h

end Matching

theorem batchKey?_eq_some {args : List Argument} {key : Path} {rest : List Path}
    (h : args.filterMap Argument.sourcePath? = key :: rest) : batchKey? args = some key := by
  rw [batchKey?, ← List.head?_filterMap, h]
  rfl

end HydrationPlan
