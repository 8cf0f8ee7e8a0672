import HydrationPlan.Proofs.Json.Format

/-!
# The formats of records

A record is described slot by slot: for each field, the member that is written for it and what it
means that it is read from the members of an object. A record of sound slots has a sound format.
-/

namespace HydrationPlan.Json

section Members

variable {α : Type} {members : List (String × Json)} {name : String} {read : Json → Option α}

theorem mem_of_member? {j : Json} (h : member? name members = some j) : (name, j) ∈ members := by
  induction members with
  | nil => cases h
  | cons e rest ih =>
    obtain ⟨k, i⟩ := e
    rw [member?] at h
    split at h
    · rename_i hk
      cases h
      exact hk ▸ List.mem_cons_self
    · exact List.mem_cons_of_mem _ (ih h)

theorem mem_of_required {a : α} (h : required members name read = some a) :
    ∃ j, (name, j) ∈ members ∧ read j = some a := by
  obtain ⟨j, hj, ha⟩ := Option.bind_eq_some_iff.mp h
  exact ⟨j, mem_of_member? hj, ha⟩

theorem mem_of_optional {o : Option α} (h : optional members name read = some o) :
    ∀ a ∈ o, ∃ j, (name, j) ∈ members ∧ read j = some a := by
  rintro a ha
  unfold optional at h
  split at h
  · cases h
    cases ha
  · cases h
    cases ha
  · rename_i j hnull hj
    obtain ⟨b, hb, rfl⟩ := Option.map_eq_some_iff.mp h
    cases ha
    exact ⟨j, mem_of_member? hj, hb⟩

theorem mem_of_defaulted {default a : α} (h : defaulted members name default read = some a) :
    a = default ∨ ∃ j, (name, j) ∈ members ∧ read j = some a := by
  unfold defaulted at h
  split at h
  · cases h
    exact .inl rfl
  · rename_i j hj
    exact .inr ⟨j, mem_of_member? hj, h⟩

theorem record?_obj_of_nodup (h : (members.map Prod.fst).Nodup) (names : List String) :
    record? names (.obj members) = some members :=
  if_pos (h.filter _)

/-- The members that are ignored may repeat names, the fields may not. -/
example : record? ["id"] (.obj [("note", .null), ("note", .null)]) =
    some [("note", .null), ("note", .null)] := by rfl

example : record? ["id"] (.obj [("id", .null), ("id", .null)]) = none := by rfl

/-- The members of a record are parts of the document that it is read from. -/
theorem record?_eq_some {names : List String} {j : Json} (h : record? names j = some members) :
    (∀ {F}, j.Proper F → ∀ e ∈ members, e.2.Proper F) ∧
      ∀ {n}, j.depth ≤ n + 1 → ∀ e ∈ members, e.2.depth ≤ n := by
  unfold record? at h
  split at h
  · split at h
    · cases h
      exact ⟨proper_obj_iff.mp, depth_obj_le.mp⟩
    · cases h
  · rename_i items
    split at h
    · cases h
      have hitem : ∀ e ∈ names.zip items, e.2 ∈ items := fun e he => (List.of_mem_zip he).2
      exact ⟨fun hj e he => proper_arr_iff.mp hj _ (hitem e he),
        fun hj e he => depth_arr_le.mp hj _ (hitem e he)⟩
    · cases h
  · cases h

end Members

section Present

variable {fields : List (String × Option Json)} {name : String}

/-- The members for those fields that have a value. -/
def present (fields : List (String × Option Json)) : List (String × Json) :=
  fields.filterMap fun e => e.2.map (e.1, ·)

theorem mem_present_iff {e : String × Json} : e ∈ present fields ↔ (e.1, some e.2) ∈ fields := by
  rw [present, List.mem_filterMap]
  constructor
  · rintro ⟨⟨k, o⟩, hmem, he⟩
    obtain ⟨j, rfl, rfl⟩ := Option.map_eq_some_iff.mp he
    exact hmem
  · exact fun he => ⟨_, he, rfl⟩

theorem names_present : ((present fields).map Prod.fst).Sublist (fields.map Prod.fst) := by
  induction fields with
  | nil => exact List.Sublist.slnil
  | cons e rest ih =>
    obtain ⟨k, _ | j⟩ := e
    · exact ih.cons k
    · exact ih.cons_cons k

theorem member?_present (hnames : (fields.map Prod.fst).Nodup) {o : Option Json}
    (h : (name, o) ∈ fields) : member? name (present fields) = o := by
  induction fields with
  | nil => cases h
  | cons e rest ih =>
    obtain ⟨k, v⟩ := e
    rw [List.map_cons, List.nodup_cons] at hnames
    rcases List.mem_cons.mp h with he | hrest
    · cases he
      cases o with
      | none =>
        -- No later field has the name.
        cases hm : member? name (present rest) with
        | none => exact hm
        | some j =>
          exact absurd (List.mem_map.mpr ⟨_, mem_present_iff.mp (mem_of_member? hm), rfl⟩) hnames.1
      | some j => exact if_pos rfl
    · have hk : k ≠ name := by
        rintro rfl
        exact hnames.1 (List.mem_map.mpr ⟨_, hrest, rfl⟩)
      cases v with
      | none => exact ih hnames.2 hrest
      | some j => exact (if_neg hk).trans (ih hnames.2 hrest)

end Present

structure Slot (α : Type) where
  name : String
  value : α → Option Json
  Reads : List (String × Json) → α → Prop
  Plain : (Float → Prop) → α → Prop

namespace Slot

variable {α β : Type} {least : Nat}

/-- What is asked of one slot is what is asked of a format. -/
structure Sound (s : Slot α) (least : Nat) : Prop where
  printable : ∀ {F a}, s.Plain F a → ∀ j ∈ s.value a, j.Printable F
  reads : ∀ {F a members}, s.Plain F a → member? s.name members = s.value a → s.Reads members a
  plain : ∀ {a members}, s.Reads members a → (∀ e ∈ members, e.2.Proper IsFinite) →
    s.Plain IsFinite a
  depth_le : ∀ {a members n}, s.Reads members a → least ≤ n → (∀ e ∈ members, e.2.depth ≤ n) →
    ∀ j ∈ s.value a, j.depth ≤ n

/-- A member that tells nothing about the record. -/
def tag (name text : String) : Slot α where
  name := name
  value _ := some (.str text)
  Reads _ _ := True
  Plain _ _ := True

theorem tag_sound (name text : String) : (tag (α := α) name text).Sound least where
  printable _ j hj := by
    cases hj
    exact ⟨trivial, rfl⟩
  reads _ _ := trivial
  plain _ _ := trivial
  depth_le _ _ _ j hj := by
    cases hj
    exact Nat.zero_le _

section Fields

variable (name : String) (f : Format β)

def required (get : α → β) : Slot α where
  name := name
  value a := some (f.write (get a))
  Reads members a := Json.required members name f.read = some (get a)
  Plain F a := f.Plain F (get a)

def optional (get : α → Option β) : Slot α where
  name := name
  value a := (get a).map f.write
  Reads members a := Json.optional members name f.read = some (get a)
  Plain F a := ∀ b ∈ get a, f.Plain F b

def defaulted (default : β) (get : α → β) : Slot α where
  name := name
  value a := some (f.write (get a))
  Reads members a := Json.defaulted members name default f.read = some (get a)
  Plain F a := f.Plain F (get a)

/-- A list that is left out if it is empty. -/
def unlessEmpty (get : α → List β) : Slot α where
  name := name
  value a := if (get a).isEmpty then none else some (f.list.write (get a))
  Reads members a := Json.defaulted members name [] f.list.read = some (get a)
  Plain F a := f.list.Plain F (get a)

end Fields

section Plain

variable {name : String} {f : Format β} {F : Float → Prop} {a : α}

@[simp] theorem tag_plain {text : String} : (tag name text).Plain F a := trivial

@[simp] theorem required_plain {get : α → β} :
    (required name f get).Plain F a ↔ f.Plain F (get a) := Iff.rfl

@[simp] theorem optional_plain {get : α → Option β} :
    (optional name f get).Plain F a ↔ ∀ b ∈ get a, f.Plain F b := Iff.rfl

@[simp] theorem defaulted_plain {default : β} {get : α → β} :
    (defaulted name f default get).Plain F a ↔ f.Plain F (get a) := Iff.rfl

@[simp] theorem unlessEmpty_plain {get : α → List β} :
    (unlessEmpty name f get).Plain F a ↔ ∀ b ∈ get a, f.Plain F b := Iff.rfl

end Plain

section Sound

variable {name : String} {f : Format β}

theorem required_sound (hf : f.Sound least) {get : α → β} : (required name f get).Sound least where
  printable h j hj := by
    cases hj
    exact hf.printable h
  reads {F a members} h hmember := by
    change member? name members = some (f.write (get a)) at hmember
    change Json.required members name f.read = some (get a)
    rw [Json.required, hmember]
    exact hf.read_write h
  plain h hmembers := by
    obtain ⟨j, hj, hread⟩ := mem_of_required h
    exact hf.plain hread (hmembers _ hj)
  depth_le h hn hmembers i hi := by
    cases hi
    obtain ⟨j, hj, hread⟩ := mem_of_required h
    exact hf.depth_le hread hn (hmembers _ hj)

/-- A value that is written as null would be read as absent. -/
theorem optional_sound (hf : f.Sound least) (hnull : ∀ {F b}, f.Plain F b → f.write b ≠ .null)
    {get : α → Option β} : (optional name f get).Sound least where
  printable h j hj := by
    obtain ⟨b, hb, rfl⟩ := Option.map_eq_some_iff.mp hj
    exact hf.printable (h b hb)
  reads {F a members} h hmember := by
    change Json.optional members name f.read = some (get a)
    change member? name members = (get a).map f.write at hmember
    unfold Json.optional
    cases ha : get a with
    | none => rw [hmember, ha, Option.map_none]
    | some b =>
      have hb : f.Plain F b := h b ha
      rw [hmember, ha, Option.map_some]
      split
      · rename_i hnone
        cases hnone
      · rename_i he
        exact absurd (Option.some.inj he) (hnull hb)
      · rename_i he
        rw [← Option.some.inj he, hf.read_write hb, Option.map_some]
  plain h hmembers b hb := by
    obtain ⟨j, hj, hread⟩ := mem_of_optional h b hb
    exact hf.plain hread (hmembers _ hj)
  depth_le h hn hmembers i hi := by
    obtain ⟨b, hb, rfl⟩ := Option.map_eq_some_iff.mp hi
    obtain ⟨j, hj, hread⟩ := mem_of_optional h b hb
    exact hf.depth_le hread hn (hmembers _ hj)

theorem defaulted_sound (hf : f.Sound least) {default : β} (hplain : f.Plain IsFinite default)
    (hdepth : (f.write default).depth ≤ least) {get : α → β} :
    (defaulted name f default get).Sound least where
  printable h j hj := by
    cases hj
    exact hf.printable h
  reads {F a members} h hmember := by
    change member? name members = some (f.write (get a)) at hmember
    change Json.defaulted members name default f.read = some (get a)
    rw [Json.defaulted, hmember]
    exact hf.read_write h
  plain {a members} h hmembers := by
    change f.Plain IsFinite (get a)
    rcases mem_of_defaulted h with hget | ⟨j, hj, hread⟩
    · rwa [hget]
    · exact hf.plain hread (hmembers _ hj)
  depth_le h hn hmembers i hi := by
    cases hi
    rcases mem_of_defaulted h with hget | ⟨j, hj, hread⟩
    · rw [hget]
      exact Nat.le_trans hdepth hn
    · exact hf.depth_le hread hn (hmembers _ hj)

theorem defaulted_list_sound (hf : f.Sound least) {get : α → List β} :
    (defaulted name f.list [] get).Sound (least + 1) :=
  defaulted_sound hf.list (List.forall_mem_nil _) (Nat.le_add_left 1 least)

theorem defaulted_table_sound (hf : f.Sound least) {get : α → Table String β} :
    (defaulted name f.table .empty get).Sound (least + 1) := by
  have hempty : ∀ b ∈ (Table.empty : Table String β).values, f.Plain IsFinite b := nofun
  exact defaulted_sound hf.table hempty (Nat.le_add_left 1 least)

theorem unlessEmpty_sound (hf : f.list.Sound least) {get : α → List β} :
    (unlessEmpty name f get).Sound least where
  printable {F a} h j hj := by
    change (if (get a).isEmpty then none else some (f.list.write (get a))) = some j at hj
    split at hj
    · cases hj
    · cases hj
      exact hf.printable h
  reads {F a members} h hmember := by
    change Json.defaulted members name [] f.list.read = some (get a)
    change member? name members = if (get a).isEmpty then none else some (f.list.write (get a))
      at hmember
    rw [Json.defaulted, hmember]
    split
    · rename_i hempty
      split at hempty
      · rename_i hnil
        rw [List.isEmpty_iff.mp hnil]
      · cases hempty
    · rename_i hvalue
      split at hvalue
      · cases hvalue
      · cases hvalue
        exact hf.read_write h
  plain {a members} h hmembers := by
    change f.list.Plain IsFinite (get a)
    rcases mem_of_defaulted h with hget | ⟨j, hj, hread⟩
    · rw [hget]
      nofun
    · exact hf.plain hread (hmembers _ hj)
  depth_le {a members n} h hn hmembers i hi := by
    change (if (get a).isEmpty then none else some (f.list.write (get a))) = some i at hi
    split at hi
    · cases hi
    · rename_i hne
      cases hi
      rcases mem_of_defaulted h with hget | ⟨j, hj, hread⟩
      · rw [hget] at hne
        exact absurd rfl hne
      · exact hf.depth_le hread hn (hmembers _ hj)

end Sound

end Slot

section Record

variable {α : Type}

def fields (slots : List (Slot α)) (a : α) : List (String × Option Json) :=
  slots.map fun s => (s.name, s.value a)

/-- The record is read slot by slot and written slot by slot. -/
structure Record (f : Format α) (slots : List (Slot α)) (names : List String) : Prop where
  nodup : (slots.map Slot.name).Nodup
  read_iff : ∀ {j a}, f.read j = some a ↔
    ∃ members, record? names j = some members ∧ ∀ s ∈ slots, s.Reads members a
  write_eq : ∀ a, f.write a = .obj (present (fields slots a))
  plain_iff : ∀ {F a}, f.Plain F a ↔ ∀ s ∈ slots, s.Plain F a

section

variable {f : Format α} {slots : List (Slot α)} {names : List String} (hf : Record f slots names)
include hf

theorem Record.nodup_fields (a : α) : ((fields slots a).map Prod.fst).Nodup := by
  rw [fields, List.map_map]
  exact hf.nodup

/-- No field is written twice. -/
theorem Record.record?_write (names' : List String) (a : α) :
    record? names' (f.write a) = some (present (fields slots a)) := by
  rw [hf.write_eq]
  exact record?_obj_of_nodup ((hf.nodup_fields a).sublist names_present) names'

theorem Record.sound {least : Nat} (hslots : ∀ s ∈ slots, s.Sound least) : f.Sound (least + 1) := by
  constructor
  case printable =>
    intro F a h
    rw [hf.plain_iff] at h
    rw [hf.write_eq, printable_obj_iff]
    intro e he
    obtain ⟨s, hs, he⟩ := List.mem_map.mp (mem_present_iff.mp he)
    exact (hslots s hs).printable (h s hs) _ (Prod.mk.inj he).2
  case read_write =>
    intro F a h
    rw [hf.plain_iff] at h
    rw [hf.read_iff]
    refine ⟨present (fields slots a), hf.record?_write names a, fun s hs => ?_⟩
    exact (hslots s hs).reads (h s hs)
      (member?_present (hf.nodup_fields a) (List.mem_map.mpr ⟨s, hs, rfl⟩))
  case plain =>
    intro j a h hj
    obtain ⟨members, hmembers, hreads⟩ := hf.read_iff.mp h
    rw [hf.plain_iff]
    exact fun s hs => (hslots s hs).plain (hreads s hs) ((record?_eq_some hmembers).1 hj)
  case depth_le =>
    intro j a n h hn hj
    obtain ⟨members, hmembers, hreads⟩ := hf.read_iff.mp h
    obtain ⟨n, rfl⟩ := Nat.exists_eq_add_of_le' (Nat.le_trans (Nat.le_add_left 1 _) hn)
    rw [hf.write_eq, depth_obj_le]
    intro e he
    obtain ⟨s, hs, he⟩ := List.mem_map.mp (mem_present_iff.mp he)
    exact (hslots s hs).depth_le (hreads s hs) (Nat.le_of_succ_le_succ hn)
      ((record?_eq_some hmembers).2 hj) _ (Prod.mk.inj he).2

end

end Record

end HydrationPlan.Json
