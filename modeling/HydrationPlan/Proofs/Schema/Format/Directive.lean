import HydrationPlan.Proofs.Json.Record
import HydrationPlan.Proofs.Literal.Format
import HydrationPlan.Schema.Json.Directive

/-!
# The formats of directives

A directive is plain if all its literals are.
-/

namespace HydrationPlan

open Json (Slot Record)

namespace Json.Format

/-- Whole numbers below a bound. -/
def natural {α : Type} (bound : Nat) (ofNat : Nat → α) (toNat : α → Nat) : Format α where
  read j := (j.asNat? bound).map ofNat
  write a := .int (toNat a)
  Plain _ _ := True

@[simp] theorem natural_plain {α : Type} {bound : Nat} {ofNat : Nat → α} {toNat : α → Nat}
    {F : Float → Prop} {a : α} : (natural bound ofNat toNat).Plain F a := trivial

theorem natural_sound {α : Type} {bound least : Nat} {ofNat : Nat → α} {toNat : α → Nat}
    (hbound : bound ≤ 2 ^ 64) (hlt : ∀ a, toNat a < bound) (hof : ∀ a, ofNat (toNat a) = a) :
    (natural bound ofNat toNat).Sound least where
  printable {_ a} _ := by
    have hsize : toNat a < 2 ^ 64 := Nat.lt_of_lt_of_le (hlt a) hbound
    exact ⟨⟨by omega, by omega⟩, rfl⟩
  read_write {_ a} _ := by
    have hread : asNat? bound (.int (toNat a)) = some (toNat a) :=
      if_pos ⟨Int.natCast_nonneg _, Int.ofNat_lt.mpr (hlt a)⟩
    dsimp only [natural]
    rw [hread, Option.map_some, hof]
  plain _ _ := trivial
  depth_le _ _ _ := Nat.zero_le _

def uint32 : Format UInt32 := natural UInt32.size .ofNat UInt32.toNat

theorem uint32_sound {least : Nat} : uint32.Sound least :=
  natural_sound (by decide) UInt32.toNat_lt fun _ => UInt32.ofNat_toNat

def uint64 : Format UInt64 := natural UInt64.size .ofNat UInt64.toNat

theorem uint64_sound {least : Nat} : uint64.Sound least :=
  natural_sound (by decide) UInt64.toNat_lt fun _ => UInt64.ofNat_toNat

end Json.Format

open Json.Format (Sound text_sound flag_sound uint32_sound uint64_sound)

namespace ArgumentBinding

def Plain (F : Float → Prop) (a : ArgumentBinding) : Prop := a.value.Plain F

def format : Json.Format ArgumentBinding := ⟨ofJson?, toJson, Plain⟩

def slots : List (Slot ArgumentBinding) :=
  [.required "name" .text (·.name), .required "value" Literal.format (·.value)]

theorem record_format : Record format slots ["name", "value"] where
  nodup := by decide
  read_iff := by
    simp only [format, ofJson?, Option.bind_eq_bind, Option.bind_eq_some_iff, Option.pure_def,
      Option.some.injEq, slots, List.forall_mem_cons]
    intro j a
    constructor
    · rintro ⟨r, hr, name, hname, value, hvalue, rfl⟩
      exact ⟨r, hr, hname, hvalue, nofun⟩
    · rintro ⟨r, hr, hname, hvalue, -⟩
      exact ⟨r, hr, _, hname, _, hvalue, rfl⟩
  write_eq _ := rfl
  plain_iff := by
    simp [format, slots, Plain, Literal.format]

theorem format_sound : format.Sound 1 := by
  apply Record.sound record_format
  simp only [slots, List.forall_mem_cons]
  exact ⟨Slot.required_sound text_sound, Slot.required_sound Literal.format_sound, nofun⟩

end ArgumentBinding

namespace IdentifierPair

def format : Json.Format IdentifierPair := ⟨ofJson?, toJson, fun _ _ => True⟩

def slots : List (Slot IdentifierPair) :=
  [.required "sourceId" .text (·.sourceId), .required "resultId" .text (·.resultId)]

theorem record_format : Record format slots ["sourceId", "resultId"] where
  nodup := by decide
  read_iff := by
    simp only [format, ofJson?, Option.bind_eq_bind, Option.bind_eq_some_iff, Option.pure_def,
      Option.some.injEq, slots, List.forall_mem_cons]
    intro j p
    constructor
    · rintro ⟨r, hr, sourceId, hsource, resultId, hresult, rfl⟩
      exact ⟨r, hr, hsource, hresult, nofun⟩
    · rintro ⟨r, hr, hsource, hresult, -⟩
      exact ⟨r, hr, _, hsource, _, hresult, rfl⟩
  write_eq _ := rfl
  plain_iff := by
    simp [format, slots]

theorem format_sound : format.Sound 1 := by
  apply Record.sound record_format
  simp only [slots, List.forall_mem_cons]
  exact ⟨Slot.required_sound text_sound, Slot.required_sound text_sound, nofun⟩

end IdentifierPair

namespace Predicate

def Plain (F : Float → Prop) : Predicate → Prop
  | equals value => value.Plain F
  | _ => True

def format : Json.Format Predicate := ⟨ofJson?, toJson, Plain⟩

theorem ofJson?_eq_some {j : Json} {p : Predicate} (h : ofJson? j = some p) :
    ∃ name i, j = .obj [(name, i)] ∧ ((∃ v, Literal.ofJson? i = some v ∧ p = equals v) ∨
      (∃ text, p = startsWith text) ∨ ∃ pattern, p = matchesPattern pattern) := by
  unfold ofJson? at h
  split at h
  · obtain ⟨v, hv, rfl⟩ := Option.map_eq_some_iff.mp h
    exact ⟨_, _, rfl, .inl ⟨v, hv, rfl⟩⟩
  · obtain ⟨text, -, rfl⟩ := Option.map_eq_some_iff.mp h
    exact ⟨_, _, rfl, .inr (.inl ⟨text, rfl⟩)⟩
  · obtain ⟨pattern, -, rfl⟩ := Option.map_eq_some_iff.mp h
    exact ⟨_, _, rfl, .inr (.inr ⟨pattern, rfl⟩)⟩
  · cases h

theorem format_sound : format.Sound 1 where
  printable {F p} h := by
    have hmember : ∀ {name : String} {j : Json}, j.Printable F →
        (Json.obj [(name, j)]).Printable F :=
      fun hj => Json.printable_obj_iff.mpr fun e he => List.mem_singleton.mp he ▸ hj
    cases p with
    | equals value => exact hmember (Literal.printable_toJson h)
    | startsWith => exact hmember ⟨trivial, rfl⟩
    | matchesPattern => exact hmember ⟨trivial, rfl⟩
  read_write {F p} h := by
    cases p with
    | equals value =>
      change (Literal.ofJson? value.toJson).map Predicate.equals = _
      rw [Literal.ofJson?_toJson h, Option.map_some]
    | startsWith => rfl
    | matchesPattern => rfl
  plain {j p} h hj := by
    obtain ⟨name, i, rfl, ⟨v, hv, rfl⟩ | ⟨text, rfl⟩ | ⟨pattern, rfl⟩⟩ := ofJson?_eq_some h
    · exact Literal.plain_of_ofJson? hv (Json.proper_obj_iff.mp hj _ List.mem_cons_self)
    · trivial
    · trivial
  depth_le {j p n} h hn hj := by
    obtain ⟨n, rfl⟩ := Nat.exists_eq_add_of_le' hn
    have hmember : ∀ {name : String} {j : Json}, j.depth ≤ n →
        (Json.obj [(name, j)]).depth ≤ n + 1 :=
      fun hj => Json.depth_obj_le.mpr fun e he => List.mem_singleton.mp he ▸ hj
    obtain ⟨name, i, rfl, ⟨v, hv, rfl⟩ | ⟨text, rfl⟩ | ⟨pattern, rfl⟩⟩ := ofJson?_eq_some h
    · exact hmember (Literal.depth_toJson_le hv (Json.depth_obj_le.mp hj _ List.mem_cons_self))
    · exact hmember (Nat.zero_le n)
    · exact hmember (Nat.zero_le n)

end Predicate

namespace When

def Plain (F : Float → Prop) (w : When) : Prop := w.predicate.Plain F

/-- What stands in the member `result`. -/
def resultFormat : Json.Format When where
  read := resultOfJson?
  write w := .obj [("sourceField", .str w.sourceField), ("predicate", w.predicate.toJson)]
  Plain := Plain

def resultSlots : List (Slot When) :=
  [.required "sourceField" .text (·.sourceField),
    .required "predicate" Predicate.format (·.predicate)]

theorem record_resultFormat : Record resultFormat resultSlots ["sourceField", "predicate"] where
  nodup := by decide
  read_iff := by
    simp only [resultFormat, resultOfJson?, Option.bind_eq_bind, Option.bind_eq_some_iff,
      Option.pure_def, Option.some.injEq, resultSlots, List.forall_mem_cons]
    intro j w
    constructor
    · rintro ⟨r, hr, sourceField, hsource, predicate, hpredicate, rfl⟩
      exact ⟨r, hr, hsource, hpredicate, nofun⟩
    · rintro ⟨r, hr, hsource, hpredicate, -⟩
      exact ⟨r, hr, _, hsource, _, hpredicate, rfl⟩
  write_eq _ := rfl
  plain_iff := by
    simp [resultFormat, resultSlots, Plain, Predicate.format]

theorem resultFormat_sound : resultFormat.Sound 2 := by
  apply Record.sound record_resultFormat
  simp only [resultSlots, List.forall_mem_cons]
  exact ⟨Slot.required_sound text_sound, Slot.required_sound Predicate.format_sound, nofun⟩

def format : Json.Format When := ⟨ofJson?, toJson, Plain⟩

theorem record_format : Record format [.required "result" resultFormat id] ["result"] where
  nodup := by decide
  read_iff := by
    simp only [format, ofJson?, Option.bind_eq_bind, Option.bind_eq_some_iff, List.forall_mem_cons]
    intro j w
    constructor
    · rintro ⟨r, hr, hresult⟩
      exact ⟨r, hr, hresult, nofun⟩
    · rintro ⟨r, hr, hresult, -⟩
      exact ⟨r, hr, hresult⟩
  write_eq _ := rfl
  plain_iff := by
    simp [format, Plain, resultFormat]

theorem format_sound : format.Sound 3 := by
  apply Record.sound record_format
  simp only [List.forall_mem_cons]
  exact ⟨Slot.required_sound resultFormat_sound, nofun⟩

end When

namespace Hydrated

def Plain (F : Float → Prop) (h : Hydrated) : Prop :=
  (∀ a ∈ h.arguments, a.Plain F) ∧ ∀ w ∈ h.condition, w.Plain F

def format : Json.Format Hydrated := ⟨ofJson?, toJson, Plain⟩

def slots : List (Slot Hydrated) :=
  [.required "service" .text (·.service), .required "field" .text (·.field),
    .defaulted "arguments" ArgumentBinding.format.list [] (·.arguments),
    .optional "identifiedBy" .text (·.identifiedBy),
    .unlessEmpty "inputIdentifiedBy" IdentifierPair.format (·.inputIdentifiedBy),
    .defaulted "indexed" .flag false (·.indexed), .optional "batchSize" .uint32 (·.batchSize),
    .optional "timeout" .uint64 (·.timeout), .optional "when" When.format (·.condition)]

theorem record_format : Record format slots fieldNames where
  nodup := by decide
  read_iff := by
    simp only [format, ofJson?, Option.bind_eq_bind, Option.bind_eq_some_iff, Option.pure_def,
      Option.some.injEq, slots, List.forall_mem_cons]
    intro j h
    constructor
    · rintro ⟨r, hr, service, hservice, field, hfield, arguments, harguments, identifiedBy,
        hidentifiedBy, inputIdentifiedBy, hinput, indexed, hindexed, batchSize, hbatchSize, timeout,
        htimeout, condition, hcondition, rfl⟩
      exact ⟨r, hr, hservice, hfield, harguments, hidentifiedBy, hinput, hindexed, hbatchSize,
        htimeout, hcondition, nofun⟩
    · rintro ⟨r, hr, hservice, hfield, harguments, hidentifiedBy, hinput, hindexed, hbatchSize,
        htimeout, hcondition, -⟩
      exact ⟨r, hr, _, hservice, _, hfield, _, harguments, _, hidentifiedBy, _, hinput, _, hindexed,
        _, hbatchSize, _, htimeout, _, hcondition, rfl⟩
  write_eq h := by
    obtain ⟨_, _, _, _ | _, _ | _, _, _ | _, _ | _, _ | _⟩ := h <;> rfl
  plain_iff := by
    simp [format, slots, Plain, ArgumentBinding.format, IdentifierPair.format, When.format,
      Json.Format.uint32, Json.Format.uint64]

theorem format_sound : format.Sound 4 := by
  apply Record.sound record_format
  simp only [slots, List.forall_mem_cons]
  exact ⟨Slot.required_sound text_sound, Slot.required_sound text_sound,
    Slot.defaulted_list_sound (Sound.mono ArgumentBinding.format_sound (by decide)),
    Slot.optional_sound text_sound nofun,
    Slot.unlessEmpty_sound (Sound.mono (Sound.list IdentifierPair.format_sound) (by decide)),
    Slot.defaulted_sound flag_sound trivial (by decide), Slot.optional_sound uint32_sound nofun,
    Slot.optional_sound uint64_sound nofun, Slot.optional_sound When.format_sound nofun, nofun⟩

end Hydrated

namespace DefaultHydration

def format : Json.Format DefaultHydration := ⟨ofJson?, toJson, fun _ _ => True⟩

def slots : List (Slot DefaultHydration) :=
  [.required "service" .text (·.service), .required "field" .text (·.field),
    .required "idArgument" .text (·.idArgument), .optional "identifiedBy" .text (·.identifiedBy),
    .optional "batchSize" .uint32 (·.batchSize), .optional "timeout" .uint64 (·.timeout)]

theorem record_format : Record format slots fieldNames where
  nodup := by decide
  read_iff := by
    simp only [format, ofJson?, Option.bind_eq_bind, Option.bind_eq_some_iff, Option.pure_def,
      Option.some.injEq, slots, List.forall_mem_cons]
    intro j d
    constructor
    · rintro ⟨r, hr, service, hservice, field, hfield, idArgument, hid, identifiedBy, hidentifiedBy,
        batchSize, hbatchSize, timeout, htimeout, rfl⟩
      exact ⟨r, hr, hservice, hfield, hid, hidentifiedBy, hbatchSize, htimeout, nofun⟩
    · rintro ⟨r, hr, hservice, hfield, hid, hidentifiedBy, hbatchSize, htimeout, -⟩
      exact ⟨r, hr, _, hservice, _, hfield, _, hid, _, hidentifiedBy, _, hbatchSize, _, htimeout,
        rfl⟩
  write_eq d := by
    obtain ⟨_, _, _, _ | _, _ | _, _ | _⟩ := d <;> rfl
  plain_iff := by
    simp [format, slots, Json.Format.uint32, Json.Format.uint64]

theorem format_sound : format.Sound 1 := by
  apply Record.sound record_format
  simp only [slots, List.forall_mem_cons]
  exact ⟨Slot.required_sound text_sound, Slot.required_sound text_sound,
    Slot.required_sound text_sound, Slot.optional_sound text_sound nofun,
    Slot.optional_sound uint32_sound nofun, Slot.optional_sound uint64_sound nofun, nofun⟩

end DefaultHydration

namespace IdHydrated

def format : Json.Format IdHydrated := ⟨ofJson?, toJson, fun _ _ => True⟩

def slots : List (Slot IdHydrated) :=
  [.required "idField" .text (·.idField), .optional "identifiedBy" .text (·.identifiedBy)]

theorem record_format : Record format slots ["idField", "identifiedBy"] where
  nodup := by decide
  read_iff := by
    simp only [format, ofJson?, Option.bind_eq_bind, Option.bind_eq_some_iff, Option.pure_def,
      Option.some.injEq, slots, List.forall_mem_cons]
    intro j h
    constructor
    · rintro ⟨r, hr, idField, hid, identifiedBy, hidentifiedBy, rfl⟩
      exact ⟨r, hr, hid, hidentifiedBy, nofun⟩
    · rintro ⟨r, hr, hid, hidentifiedBy, -⟩
      exact ⟨r, hr, _, hid, _, hidentifiedBy, rfl⟩
  write_eq h := by
    obtain ⟨_, _ | _⟩ := h <;> rfl
  plain_iff := by
    simp [format, slots]

theorem format_sound : format.Sound 1 := by
  apply Record.sound record_format
  simp only [slots, List.forall_mem_cons]
  exact ⟨Slot.required_sound text_sound, Slot.optional_sound text_sound nofun, nofun⟩

end IdHydrated

end HydrationPlan
