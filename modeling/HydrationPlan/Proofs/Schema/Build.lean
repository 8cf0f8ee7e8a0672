import HydrationPlan.Proofs.Schema.Implementors
import Mathlib.Data.List.Basic
import Mathlib.Data.List.Induction

/-!
# Schemas that are built step by step

A schema that is built holds what its steps have added: each name once, at the place where it was
first added, with the definition that was added last. So an interface lists the objects that declare
it now, and a definition that was replaced leaves nothing but its place.
-/

namespace HydrationPlan.Schema

variable {s : Schema}

def Step.definition? : Step → Option TypeDefinition
  | .type d => some d
  | .queryType _ => none

def Step.query? : Step → Option String
  | .queryType name => some name
  | .type _ => none

def added (steps : List Step) : List TypeDefinition := steps.filterMap Step.definition?

/-- The schema holds the definitions that were added one after the other: each under its name, of
one name the last, and where that name came first. -/
structure Holds (s : Schema) (definitions : List TypeDefinition) : Prop where
  named : s.types.NamedBy TypeDefinition.name
  last (name : String) : s.type? name = (definitions.filter (·.name = name)).getLast?
  mem_keys (name : String) : name ∈ s.types.keys ↔ name ∈ definitions.map TypeDefinition.name
  ordered : s.types.keys.Pairwise fun a b =>
    (definitions.map TypeDefinition.name).idxOf a < (definitions.map TypeDefinition.name).idxOf b

theorem holds_empty : empty.Holds [] where
  named := nofun
  last _ := rfl
  mem_keys _ := Iff.rfl
  ordered := .nil

theorem type?_apply (s : Schema) (d : TypeDefinition) (name : String) :
    (s.apply (.type d)).type? name = if d.name = name then some d else s.type? name :=
  Table.get?_insert s.types d.name name d

theorem keys_apply (s : Schema) (d : TypeDefinition) :
    (s.apply (.type d)).types.keys =
      if d.name ∈ s.types.keys then s.types.keys else s.types.keys ++ [d.name] :=
  Table.keys_insert s.types d.name d

theorem Holds.apply {definitions : List TypeDefinition} (h : s.Holds definitions)
    (d : TypeDefinition) : (s.apply (.type d)).Holds (definitions ++ [d]) where
  named e he := by
    rcases mem_upsert he with he | rfl
    · exact h.named e he
    · rfl
  last name := by
    rw [type?_apply, h.last, List.filter_append]
    by_cases hname : d.name = name <;> simp [hname]
  mem_keys name := by
    rw [keys_apply, List.map_append, List.mem_append, ← h.mem_keys, List.map_singleton,
      List.mem_singleton]
    by_cases hd : d.name ∈ s.types.keys
    · rw [if_pos hd, or_iff_left_of_imp fun he => he ▸ hd]
    · rw [if_neg hd, List.mem_append, List.mem_singleton]
  ordered := by
    -- An added definition moves no name that was added before.
    have hplace : ∀ name ∈ s.types.keys,
        ((definitions ++ [d]).map TypeDefinition.name).idxOf name =
          (definitions.map TypeDefinition.name).idxOf name := by
      intro name hname
      rw [List.map_append, List.idxOf_append_of_mem ((h.mem_keys name).mp hname)]
    have hold : s.types.keys.Pairwise fun a b =>
        ((definitions ++ [d]).map TypeDefinition.name).idxOf a <
          ((definitions ++ [d]).map TypeDefinition.name).idxOf b := by
      refine h.ordered.imp_of_mem fun ha hb hab => ?_
      rwa [hplace _ ha, hplace _ hb]
    rw [keys_apply]
    by_cases hd : d.name ∈ s.types.keys
    · rwa [if_pos hd]
    · rw [if_neg hd, List.pairwise_append]
      refine ⟨hold, List.pairwise_singleton _ _, fun a ha b hb => ?_⟩
      rw [List.mem_singleton.mp hb, hplace a ha, List.map_append,
        List.idxOf_append_of_notMem (mt (h.mem_keys d.name).mpr hd)]
      exact Nat.lt_add_right _ (List.idxOf_lt_length_iff.mpr ((h.mem_keys a).mp ha))

theorem build_concat (steps : List Step) (step : Step) :
    build (steps ++ [step]) = (build steps).apply step := by
  simp [build]

theorem added_concat_type (steps : List Step) (d : TypeDefinition) :
    added (steps ++ [.type d]) = added steps ++ [d] := by
  simp [added, Step.definition?]

theorem added_concat_queryType (steps : List Step) (name : String) :
    added (steps ++ [.queryType name]) = added steps := by
  simp [added, Step.definition?]

theorem holds_build (steps : List Step) : (build steps).Holds (added steps) := by
  induction steps using List.reverseRecOn with
  | nil => exact holds_empty
  | append_singleton steps step ih =>
    rw [build_concat]
    cases step with
    | queryType name =>
      rw [added_concat_queryType]
      exact ⟨ih.named, ih.last, ih.mem_keys, ih.ordered⟩
    | type d =>
      rw [added_concat_type]
      exact ih.apply d

theorem queryType_build (steps : List Step) :
    (build steps).queryType = (steps.filterMap Step.query?).getLast? := by
  induction steps using List.reverseRecOn with
  | nil => rfl
  | append_singleton steps step ih =>
    rw [build_concat, List.filterMap_append]
    cases step with
    | queryType name => simp [apply, Step.query?]
    | type d => simpa [apply, Step.query?] using ih

/-- A definition that is not replaced by a later step is the one under its name. -/
theorem type?_build_of_last {before after : List Step} {d : TypeDefinition}
    (h : ∀ e ∈ added after, e.name ≠ d.name) :
    (build (before ++ .type d :: after)).type? d.name = some d := by
  have hafter : (added after).filter (·.name = d.name) = [] := by
    simpa [List.filter_eq_nil_iff] using h
  have hadded : added (before ++ .type d :: after) = added before ++ d :: added after := by
    simp [added, Step.definition?]
  rw [(holds_build _).last, hadded, List.filter_append, List.filter_cons_of_pos (by simp), hafter,
    List.getLast?_concat]

/-- A schema that is built holds the last definition of each name where the name was first added,
and the query type that was set last. Its interfaces list the objects that declare them now, and an
object that is redefined as something else, or without the interface, no longer. -/
theorem build_holds_last (steps : List Step) :
    (build steps).Holds (added steps) ∧ (build steps).types.keys.Nodup ∧
      (build steps).queryType = (steps.filterMap Step.query?).getLast? ∧
      ∀ interface i, (build steps).type? interface = some (.interface i) →
        (build steps).ListsObjects interface ∧
          ∀ before d after, steps = before ++ .type d :: after →
            (∀ e ∈ added after, e.name ≠ d.name) →
            (d.name ∈ (build steps).possibleTypes interface ↔
              ∃ o, d = .object o ∧ interface ∈ o.implements) := by
  have hbuild := holds_build steps
  refine ⟨hbuild, (build steps).types.keys_nodup, queryType_build steps, fun interface i hi => ?_⟩
  have hlists := listsObjects hbuild.named hi
  refine ⟨hlists, ?_⟩
  rintro before d after rfl hlast
  rw [hlists.mem_iff, type?_build_of_last hlast]
  simp only [Option.some.injEq]

/-- Widgets, users and colours are nodes at first; then widgets leave the interface, and colours
become a scalar. -/
def redefinedNodes : List Step :=
  let node (name : String) := FieldedType.ofName name |>.withInterface "Node"
  [.queryType "Root", .object (node "Widget"), .interface (.ofName "Node"), .object (node "Colour"),
    .object (node "User"), .object (.ofName "Widget"), .queryType "Query", .scalar "Colour"]

/-- Both keep their places, and users alone are nodes. -/
theorem redefinedNodes_hold_last :
    (build redefinedNodes).Holds (added redefinedNodes) ∧
      (build redefinedNodes).types.keys = ["Widget", "Node", "Colour", "User"] ∧
      (build redefinedNodes).queryType = some "Query" ∧
      "User" ∈ (build redefinedNodes).possibleTypes "Node" ∧
      "Widget" ∉ (build redefinedNodes).possibleTypes "Node" ∧
      "Colour" ∉ (build redefinedNodes).possibleTypes "Node" := by
  obtain ⟨hholds, -, hquery, hinterface⟩ := build_holds_last redefinedNodes
  obtain ⟨hlists, hlast⟩ := hinterface "Node" (.ofName "Node") (by rfl)
  refine ⟨hholds, by rfl, hquery, ?_, ?_, ?_⟩
  · exact (hlists.mem_iff "User").mpr ⟨_, by rfl, by decide +kernel⟩
  · intro hwidget
    obtain ⟨o, ho, hnode⟩ := (hlast (redefinedNodes.take 5) (.object (.ofName "Widget"))
      (redefinedNodes.drop 6) rfl (by decide +kernel)).mp hwidget
    cases ho
    cases hnode
  · intro hcolour
    obtain ⟨o, ho, -⟩ := (hlast (redefinedNodes.take 7) (.scalar ⟨"Colour", none⟩) [] rfl
      (by decide +kernel)).mp hcolour
    cases ho

end HydrationPlan.Schema
