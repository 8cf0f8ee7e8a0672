import HydrationPlan.Proofs.Json.Proper
import HydrationPlan.Proofs.Json.Reading
import HydrationPlan.Proofs.Schema.Format.Definition
import HydrationPlan.Schema.Json.Gateway

/-!
# Gateways through JSON

A plain gateway is loaded back from its document, unless the document is nested too deeply to be
held. Every gateway that is loaded is plain and can be written and loaded again.
-/

namespace HydrationPlan

open Json (Slot Record)
open Json.Format (Sound text_sound)

namespace Service

def Plain (F : Float → Prop) (s : Service) : Prop := s.schema.Plain F

def format : Json.Format Service := ⟨ofJson?, toJson, Plain⟩

def slots : List (Slot Service) :=
  [.required "name" .text (·.name), .required "schema" Schema.format (·.schema)]

theorem record_format : Record format slots ["name", "schema"] where
  nodup := by decide
  read_iff := by
    simp only [format, ofJson?, Option.bind_eq_bind, Option.bind_eq_some_iff, Option.pure_def,
      Option.some.injEq, slots, List.forall_mem_cons]
    intro j s
    constructor
    · rintro ⟨r, hr, name, hname, schema, hschema, rfl⟩
      exact ⟨r, hr, hname, hschema, nofun⟩
    · rintro ⟨r, hr, hname, hschema, -⟩
      exact ⟨r, hr, _, hname, _, hschema, rfl⟩
  write_eq _ := rfl
  plain_iff := by
    simp [format, slots, Plain, Schema.format]

theorem format_sound : format.Sound 11 := by
  apply Record.sound record_format
  simp only [slots, List.forall_mem_cons]
  exact ⟨Slot.required_sound text_sound, Slot.required_sound Schema.format_sound, nofun⟩

end Service

namespace Gateway

def Plain (F : Float → Prop) (g : Gateway) : Prop :=
  g.engine.Plain F ∧ ∀ s ∈ g.services.values, s.Plain F

def format : Json.Format Gateway := ⟨ofJson?, toJson, Plain⟩

def slots : List (Slot Gateway) :=
  [.required "engine" Schema.format (·.engine),
    .defaulted "services" Service.format.table .empty (·.services)]

theorem record_format : Record format slots ["engine", "services"] where
  nodup := by decide
  read_iff := by
    simp only [format, ofJson?, Option.bind_eq_bind, Option.bind_eq_some_iff, Option.pure_def,
      Option.some.injEq, slots, List.forall_mem_cons]
    intro j g
    constructor
    · rintro ⟨r, hr, engine, hengine, services, hservices, rfl⟩
      exact ⟨r, hr, hengine, hservices, nofun⟩
    · rintro ⟨r, hr, hengine, hservices, -⟩
      exact ⟨r, hr, _, hengine, _, hservices, rfl⟩
  write_eq _ := rfl
  plain_iff := by
    simp [format, slots, Plain, Schema.format, Service.format]

theorem format_sound : format.Sound 13 := by
  apply Record.sound record_format
  simp only [slots, List.forall_mem_cons]
  exact ⟨Slot.required_sound (Sound.mono Schema.format_sound (by decide)),
    Slot.defaulted_table_sound Service.format_sound, nofun⟩

variable {g : Gateway}

theorem load?_eq_some {text : String} (h : load? text = some g) :
    ∃ j, Json.parse? text = some j ∧ ofJson? (j.within Json.deepest) = some g :=
  Option.bind_eq_some_iff.mp h

theorem parse?_document (h : g.Plain Json.ReadsBack) : Json.parse? g.document = some g.toJson :=
  Json.parse?_compress (Sound.printable format_sound h)

theorem load?_document (hplain : g.Plain Json.ReadsBack) (hdepth : g.toJson.depth ≤ Json.deepest) :
    load? g.document = some g := by
  have hread : ofJson? g.toJson = some g := Sound.read_write format_sound hplain
  rw [load?, parse?_document hplain, Option.bind_eq_bind, Option.bind_some,
    Json.within_eq_self hdepth, hread]

theorem plain_of_load? {text : String} (h : load? text = some g) : g.Plain IsFinite := by
  obtain ⟨j, hj, hread⟩ := load?_eq_some h
  exact Sound.plain format_sound hread ((Json.proper_of_parse? hj).within _)

theorem depth_of_load? {text : String} (h : load? text = some g) :
    g.toJson.depth ≤ Json.deepest := by
  obtain ⟨j, -, hread⟩ := load?_eq_some h
  exact Sound.depth_le format_sound hread (by decide) (Json.depth_within_le j Json.deepest)

/-- A plain gateway is taken back from its JSON, and from its document if that can be held. Every
gateway that is loaded is of this kind, up to floats that are not read back. -/
theorem json_round_trip :
    (∀ F g, Plain F g → ofJson? g.toJson = some g) ∧
    (∀ g, g.Plain Json.ReadsBack → g.toJson.depth ≤ Json.deepest → load? g.document = some g) ∧
    ∀ text g, load? text = some g → g.Plain IsFinite ∧ g.toJson.depth ≤ Json.deepest ∧
      (g.Plain Json.ReadsBack → load? g.document = some g) :=
  ⟨fun _ _ h => Sound.read_write format_sound h,
    fun _ hplain hdepth => load?_document hplain hdepth,
    fun _ _ h => ⟨plain_of_load? h, depth_of_load? h,
      fun hplain => load?_document hplain (depth_of_load? h)⟩⟩

def catFilter (default : Literal) : Gateway :=
  .ofEngine <| .build [.inputObject <| (InputType.ofName "CatFilter").withField
    ⟨"weight", none, .nullable (.named "Float"), some default⟩]

theorem plain_catFilter {F : Float → Prop} {default : Literal} (h : default.NonNull F) :
    (catFilter default).Plain F := by
  have htype : (TypeRef.nullable (.named "Float")).Notated := ⟨by decide, by decide⟩
  refine ⟨?_, nofun⟩
  intro t ht
  cases List.mem_singleton.mp ht
  intro v hv
  cases List.mem_singleton.mp hv
  refine ⟨htype, fun d hd => ?_⟩
  cases hd
  exact h

theorem catFilter_round_trip : (catFilter (.float 1e21)).Plain Json.ReadsBack ∧
    ofJson? (catFilter (.float 1e21)).toJson = some (catFilter (.float 1e21)) ∧
    load? (catFilter (.float 1e21)).document = some (catFilter (.float 1e21)) ∧
    (catFilter (.float 1e21)).Plain IsFinite := by
  have hreads : Json.ReadsBack 1e21 := by
    refine Json.IsNumeral.readsBack (.inl ?_)
    have hliteral : Json.floatLiteral (1e21 : Float) = "1e+21" := by decide +kernel
    rw [hliteral]
    exact ⟨_, _, rfl, rfl, rfl⟩
  have hplain : (catFilter (.float 1e21)).Plain Json.ReadsBack := plain_catFilter ⟨hreads, nofun⟩
  have hload : load? (catFilter (.float 1e21)).document = some (catFilter (.float 1e21)) :=
    json_round_trip.2.1 _ hplain (by decide)
  exact ⟨hplain, json_round_trip.1 _ _ hplain, hload, (json_round_trip.2.2 _ _ hload).1⟩

/-- A list in a list, and so on. -/
def nestedList : Nat → Literal
  | 0 => .list []
  | n + 1 => .list [nestedList n]

theorem nonNull_nestedList {F : Float → Prop} (n : Nat) : (nestedList n).NonNull F := by
  induction n with
  | zero => exact ⟨Literal.plain_list_iff.mpr nofun, nofun⟩
  | succ n ih =>
    refine ⟨Literal.plain_list_iff.mpr fun v hv => ?_, nofun⟩
    cases List.mem_singleton.mp hv
    exact ih.1

/-- A default that is nested too deeply is written, but not loaded. -/
theorem nestedFilter_not_loaded : (catFilter (nestedList 121)).Plain Json.ReadsBack ∧
    load? (catFilter (nestedList 121)).document = none := by
  have hplain : (catFilter (nestedList 121)).Plain Json.ReadsBack :=
    plain_catFilter (nonNull_nestedList 121)
  refine ⟨hplain, ?_⟩
  rw [load?, parse?_document hplain, Option.bind_eq_bind, Option.bind_some,
    ← Option.isNone_iff_eq_none]
  decide +kernel

end Gateway

end HydrationPlan
