import HydrationPlan.Json.Held
import Mathlib.Algebra.Group.Int.Defs
import Mathlib.Data.List.Basic

/-!
# What is inside a document

A statement on documents is proved of a container from the statement on what it holds. So are the
laws of nesting, of the values in a document, and of what is kept of it to a given depth.
-/

namespace HydrationPlan.Json

theorem contentInduction {P : Json → Prop} (null : P .null) (bool : ∀ b, P (.bool b))
    (int : ∀ n, P (.int n)) (float : ∀ x, P (.float x)) (str : ∀ s, P (.str s))
    (arr : ∀ items, (∀ j ∈ items, P j) → P (.arr items))
    (obj : ∀ members, (∀ e ∈ members, P e.2) → P (.obj members)) (refused : P .refused) :
    ∀ j, P j := by
  intro j
  refine @Json.rec P (fun items => ∀ j ∈ items, P j) (fun members => ∀ e ∈ members, P e.2)
    (fun e => P e.2) null bool int float str arr obj refused ?_ ?_ ?_ ?_ ?_ j
  · nofun
  · intro j rest hj hrest
    exact List.forall_mem_cons.mpr ⟨hj, hrest⟩
  · nofun
  · intro e rest he hrest
    exact List.forall_mem_cons.mpr ⟨he, hrest⟩
  · intro _ j hj
    exact hj

mutual

def depth : Json → Nat
  | .arr items => itemsDepth items + 1
  | .obj members => membersDepth members + 1
  | _ => 0

def itemsDepth : List Json → Nat
  | [] => 0
  | j :: rest => max (depth j) (itemsDepth rest)

def membersDepth : List (String × Json) → Nat
  | [] => 0
  | (_, j) :: rest => max (depth j) (membersDepth rest)

end

theorem depth_arr_le {items : List Json} {n : Nat} :
    (Json.arr items).depth ≤ n + 1 ↔ ∀ j ∈ items, j.depth ≤ n := by
  rw [depth, Nat.add_le_add_iff_right]
  induction items with
  | nil => simp [itemsDepth]
  | cons j rest ih => rw [itemsDepth, Nat.max_le, ih, List.forall_mem_cons]

theorem depth_obj_le {members : List (String × Json)} {n : Nat} :
    (Json.obj members).depth ≤ n + 1 ↔ ∀ e ∈ members, e.2.depth ≤ n := by
  rw [depth, Nat.add_le_add_iff_right]
  induction members with
  | nil => simp [membersDepth]
  | cons e rest ih => rw [membersDepth, Nat.max_le, ih, List.forall_mem_cons]

/-- The whole numbers that are read as such: those of 64 bits, with or without sign. -/
def IsWhole (n : Int) : Prop := -2 ^ 63 ≤ n ∧ n < 2 ^ 64

mutual

/-- All whole numbers are of 64 bits, and `F` holds of all floats. -/
def Proper (F : Float → Prop) : Json → Prop
  | .int n => IsWhole n
  | .float x => F x
  | .arr items => ItemsProper F items
  | .obj members => MembersProper F members
  | _ => True

def ItemsProper (F : Float → Prop) : List Json → Prop
  | [] => True
  | j :: rest => Proper F j ∧ ItemsProper F rest

def MembersProper (F : Float → Prop) : List (String × Json) → Prop
  | [] => True
  | (_, j) :: rest => Proper F j ∧ MembersProper F rest

end

section Proper

variable {F : Float → Prop} {items : List Json} {members : List (String × Json)} {n : Nat}

theorem proper_arr_iff : Proper F (.arr items) ↔ ∀ j ∈ items, Proper F j := by
  rw [Proper]
  induction items with
  | nil => simp [ItemsProper]
  | cons j rest ih => rw [ItemsProper, ih, List.forall_mem_cons]

theorem proper_obj_iff : Proper F (.obj members) ↔ ∀ e ∈ members, Proper F e.2 := by
  rw [Proper]
  induction members with
  | nil => simp [MembersProper]
  | cons e rest ih => rw [MembersProper, ih, List.forall_mem_cons]

theorem isHeld_arr_iff : isHeld (.arr items) = true ↔ ∀ j ∈ items, isHeld j = true := by
  rw [isHeld]
  induction items with
  | nil => simp [areHeld]
  | cons j rest ih => rw [areHeld, Bool.and_eq_true, ih, List.forall_mem_cons]

theorem isHeld_obj_iff : isHeld (.obj members) = true ↔ ∀ e ∈ members, isHeld e.2 = true := by
  rw [isHeld]
  induction members with
  | nil => simp [membersHeld]
  | cons e rest ih => rw [membersHeld, Bool.and_eq_true, ih, List.forall_mem_cons]

theorem itemsWithin_eq_map : itemsWithin n items = items.map (within n) := by
  induction items with
  | nil => rfl
  | cons j rest ih => rw [itemsWithin, ih, List.map_cons]

theorem membersWithin_eq_map :
    membersWithin n members = members.map fun e => (e.1, within n e.2) := by
  induction members with
  | nil => rfl
  | cons e rest ih => rw [membersWithin, ih, List.map_cons]

theorem Proper.within {j : Json} (h : Proper F j) (n : Nat) : Proper F (j.within n) := by
  induction j using contentInduction generalizing n with
  | arr items ih =>
    cases n with
    | zero => trivial
    | succ n =>
      rw [proper_arr_iff] at h
      rw [Json.within, itemsWithin_eq_map, proper_arr_iff, List.forall_mem_map]
      exact fun j hj => ih j hj (h j hj) n
  | obj members ih =>
    cases n with
    | zero => trivial
    | succ n =>
      rw [proper_obj_iff] at h
      rw [Json.within, membersWithin_eq_map, proper_obj_iff, List.forall_mem_map]
      exact fun e he => ih e he (h e he) n
  | _ => exact h

theorem within_eq_self {j : Json} (h : j.depth ≤ n) : j.within n = j := by
  induction j using contentInduction generalizing n with
  | arr items ih =>
    cases n with
    | zero => simp [depth] at h
    | succ n =>
      rw [depth_arr_le] at h
      rw [within, itemsWithin_eq_map, List.map_congr_left fun j hj => ih j hj (h j hj),
        List.map_id']
  | obj members ih =>
    cases n with
    | zero => simp [depth] at h
    | succ n =>
      rw [depth_obj_le] at h
      have hsame : ∀ e ∈ members, (e.1, within n e.2) = e := fun e he => by rw [ih e he (h e he)]
      rw [within, membersWithin_eq_map, List.map_congr_left hsame, List.map_id']
  | _ => rfl

theorem depth_within_le (j : Json) (n : Nat) : (j.within n).depth ≤ n := by
  induction j using contentInduction generalizing n with
  | arr items ih =>
    cases n with
    | zero => exact Nat.le_refl 0
    | succ n =>
      rw [within, itemsWithin_eq_map, depth_arr_le, List.forall_mem_map]
      exact fun j hj => ih j hj n
  | obj members ih =>
    cases n with
    | zero => exact Nat.le_refl 0
    | succ n =>
      rw [within, membersWithin_eq_map, depth_obj_le, List.forall_mem_map]
      exact fun e he => ih e he n
  | _ => exact Nat.zero_le n

end Proper

/-- The document is written so that all of it can be read. -/
structure Printable (F : Float → Prop) (j : Json) : Prop where
  proper : j.Proper F
  held : j.isHeld = true

section Printable

variable {F : Float → Prop} {items : List Json} {members : List (String × Json)}

theorem printable_arr_iff : Printable F (.arr items) ↔ ∀ j ∈ items, Printable F j := by
  constructor
  · rintro ⟨hproper, hheld⟩ j hj
    exact ⟨proper_arr_iff.mp hproper j hj, isHeld_arr_iff.mp hheld j hj⟩
  · intro h
    exact ⟨proper_arr_iff.mpr fun j hj => (h j hj).proper,
      isHeld_arr_iff.mpr fun j hj => (h j hj).held⟩

theorem printable_obj_iff :
    Printable F (.obj members) ↔ ∀ e ∈ members, Printable F e.2 := by
  constructor
  · rintro ⟨hproper, hheld⟩ e he
    exact ⟨proper_obj_iff.mp hproper e he, isHeld_obj_iff.mp hheld e he⟩
  · intro h
    exact ⟨proper_obj_iff.mpr fun e he => (h e he).proper,
      isHeld_obj_iff.mpr fun e he => (h e he).held⟩

end Printable

end HydrationPlan.Json
