import HydrationPlan.Json.Record
import HydrationPlan.Proofs.Checked
import HydrationPlan.Proofs.Finite
import HydrationPlan.Proofs.Json.Document
import HydrationPlan.Proofs.Table

/-!
# Formats

A format is a reader together with a writer. It is sound if the reader takes back what was written,
and if what it takes from a document can be written without nesting deeper than the document did.
-/

namespace HydrationPlan.Json

/-- How values are read and written, and which of them have a written form. -/
structure Format (α : Type) where
  read : Json → Option α
  write : α → Json
  Plain : (Float → Prop) → α → Prop

namespace Format

/-- A value that leaves out defaults may be written deeper than it was read, but not below
`least`. -/
structure Sound {α : Type} (f : Format α) (least : Nat) : Prop where
  printable : ∀ {F a}, f.Plain F a → (f.write a).Printable F
  read_write : ∀ {F a}, f.Plain F a → f.read (f.write a) = some a
  plain : ∀ {j a}, f.read j = some a → j.Proper IsFinite → f.Plain IsFinite a
  depth_le : ∀ {j a n}, f.read j = some a → least ≤ n → j.depth ≤ n → (f.write a).depth ≤ n

theorem Sound.mono {α : Type} {f : Format α} {m n : Nat} (hf : f.Sound m) (h : m ≤ n) :
    f.Sound n where
  printable := hf.printable
  read_write := hf.read_write
  plain := hf.plain
  depth_le hread hn := hf.depth_le hread (Nat.le_trans h hn)

def text : Format String := ⟨asString?, .str, fun _ _ => True⟩

@[simp] theorem text_plain {F : Float → Prop} {s : String} : text.Plain F s := trivial

theorem text_sound {least : Nat} : text.Sound least where
  printable _ := ⟨trivial, rfl⟩
  read_write _ := rfl
  plain _ _ := trivial
  depth_le _ _ _ := Nat.zero_le _

def flag : Format Bool := ⟨asBool?, .bool, fun _ _ => True⟩

@[simp] theorem flag_plain {F : Float → Prop} {b : Bool} : flag.Plain F b := trivial

theorem flag_sound {least : Nat} : flag.Sound least where
  printable _ := ⟨trivial, rfl⟩
  read_write _ := rfl
  plain _ _ := trivial
  depth_le _ _ _ := Nat.zero_le _

end Format

section Lists

variable {α β : Type}

theorem mapM_eq_some_iff {f : α → Option β} {l : List α} {r : List β} :
    l.mapM f = some r ↔ List.Forall₂ (fun a b => f a = some b) l r := by
  induction l generalizing r with
  | nil =>
    rw [List.mapM_nil, List.forall₂_nil_left_iff]
    exact ⟨fun h => (Option.some.inj h).symm, fun h => h ▸ rfl⟩
  | cons a l ih =>
    simp only [List.mapM_cons, Option.bind_eq_bind, Option.bind_eq_some_iff, ih]
    constructor
    · rintro ⟨b, hb, bs, hbs, hr⟩
      cases hr
      exact .cons hb hbs
    · rintro (_ | ⟨hb, hbs⟩)
      exact ⟨_, hb, _, hbs, rfl⟩

variable {read : Json → Option α} {members : List (String × Json)} {entries : List (String × α)}

theorem mem_of_mapM (h : members.mapM (fun e => (read e.2).map (e.1, ·)) = some entries)
    {e : String × α} (he : e ∈ entries) : ∃ i, (e.1, i) ∈ members ∧ read i = some e.2 := by
  obtain ⟨⟨k, i⟩, hi, hread⟩ := exists_of_mem_right (mapM_eq_some_iff.mp h) he
  obtain ⟨a, ha, rfl⟩ := Option.map_eq_some_iff.mp hread
  exact ⟨i, hi, ha⟩

theorem asTable?_eq_some {j : Json} {t : Table String α} (h : asTable? read j = some t) :
    ∃ members, j = .obj members ∧
      ∀ e ∈ t.entries, ∃ i, (e.1, i) ∈ members ∧ read i = some e.2 := by
  cases j <;> try cases h
  rename_i members
  refine ⟨members, rfl, fun e he => ?_⟩
  obtain ⟨entries, hentries, ht⟩ := Option.bind_eq_some_iff.mp h
  cases ht
  exact mem_of_mapM hentries (Table.mem_of_mem_ofList he)

end Lists

namespace Format

variable {α : Type} {f : Format α} {least : Nat}

def list (f : Format α) : Format (List α) :=
  ⟨asList? f.read, fun l => .arr (l.map f.write), fun F l => ∀ a ∈ l, f.Plain F a⟩

@[simp] theorem list_plain {F : Float → Prop} {l : List α} :
    f.list.Plain F l ↔ ∀ a ∈ l, f.Plain F a := Iff.rfl

theorem Sound.list (hf : f.Sound least) : f.list.Sound (least + 1) where
  printable h := printable_arr_iff.mpr (List.forall_mem_map.mpr fun a ha => hf.printable (h a ha))
  read_write {F l} h := by
    change (l.map f.write).mapM f.read = some l
    rw [mapM_eq_some_iff, List.forall₂_map_left_iff, List.forall₂_same]
    exact fun a ha => hf.read_write (h a ha)
  plain {j l} h hj a ha := by
    cases j <;> try cases h
    obtain ⟨i, hi, hia⟩ := exists_of_mem_right (mapM_eq_some_iff.mp h) ha
    exact hf.plain hia (proper_arr_iff.mp hj i hi)
  depth_le {j l n} h hn hj := by
    cases j <;> try cases h
    obtain ⟨n, rfl⟩ := Nat.exists_eq_add_of_le' (Nat.le_trans (Nat.le_add_left 1 _) hn)
    refine depth_arr_le.mpr (List.forall_mem_map.mpr fun a ha => ?_)
    obtain ⟨i, hi, hia⟩ := exists_of_mem_right (mapM_eq_some_iff.mp h) ha
    exact hf.depth_le hia (Nat.le_of_succ_le_succ hn) (depth_arr_le.mp hj i hi)

def table (f : Format α) : Format (Table String α) :=
  ⟨asTable? f.read, ofTable f.write, fun F t => ∀ a ∈ t.values, f.Plain F a⟩

@[simp] theorem table_plain {F : Float → Prop} {t : Table String α} :
    f.table.Plain F t ↔ ∀ a ∈ t.values, f.Plain F a := Iff.rfl

theorem Sound.table (hf : f.Sound least) : f.table.Sound (least + 1) where
  printable {F t} h := by
    change (Json.obj (t.entries.map fun e => (e.1, f.write e.2))).Printable F
    rw [printable_obj_iff, List.forall_mem_map]
    exact fun e he => hf.printable (h _ (Table.mem_values_of_mem he))
  read_write {F t} h := by
    have hentries : (t.entries.map fun e => (e.1, f.write e.2)).mapM
        (fun e => (f.read e.2).map (e.1, ·)) = some t.entries := by
      rw [mapM_eq_some_iff, List.forall₂_map_left_iff, List.forall₂_same]
      intro e he
      rw [hf.read_write (h _ (Table.mem_values_of_mem he)), Option.map_some]
    change asTable? f.read (ofTable f.write t) = some t
    change ((t.entries.map fun e => (e.1, f.write e.2)).mapM fun e => (f.read e.2).map (e.1, ·)) >>=
      (fun entries => some (Table.ofList entries)) = some t
    rw [hentries]
    exact congrArg some t.ofList_entries
  plain {j t} h hj a ha := by
    obtain ⟨members, rfl, hmembers⟩ := asTable?_eq_some h
    obtain ⟨e, he, rfl⟩ := List.mem_map.mp ha
    obtain ⟨i, hi, hread⟩ := hmembers e he
    exact hf.plain hread (proper_obj_iff.mp hj _ hi)
  depth_le {j t n} h hn hj := by
    obtain ⟨members, rfl, hmembers⟩ := asTable?_eq_some h
    obtain ⟨n, rfl⟩ := Nat.exists_eq_add_of_le' (Nat.le_trans (Nat.le_add_left 1 _) hn)
    refine depth_obj_le.mpr (List.forall_mem_map.mpr fun e he => ?_)
    obtain ⟨i, hi, hread⟩ := hmembers e he
    exact hf.depth_le hread (Nat.le_of_succ_le_succ hn) (depth_obj_le.mp hj _ hi)

end Format

end HydrationPlan.Json
