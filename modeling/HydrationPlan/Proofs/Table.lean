import HydrationPlan.Table
import Mathlib

/-!
# Looking up and adding entries

A table is seen as its list of entries. Keys occur once, so that a look-up and membership of an
entry say the same.

Mathlib is imported whole, here only, for what is evaluated further on: the equations of library
definitions that an evaluation takes are then those of Mathlib in every module.
-/

namespace HydrationPlan

theorem find?_key_iff {κ α : Type} [DecidableEq κ] {l : List (κ × α)}
    (h : (l.map Prod.fst).Nodup) (k : κ) (v : α) :
    l.find? (fun e => e.1 = k) = some (k, v) ↔ (k, v) ∈ l := by
  induction l with
  | nil => simp
  | cons e rest ih =>
    rw [List.map_cons, List.nodup_cons] at h
    by_cases hk : e.1 = k
    · rw [List.find?_cons_of_pos (by simpa using hk), Option.some.injEq, List.mem_cons]
      refine ⟨fun he => Or.inl he.symm, ?_⟩
      rintro (he | hm)
      · exact he.symm
      · exact absurd (List.mem_map_of_mem (f := Prod.fst) hm) (hk ▸ h.1)
    · rw [List.find?_cons_of_neg (by simpa using hk), ih h.2, List.mem_cons]
      exact ⟨Or.inr, fun hm => hm.resolve_left fun he => hk (he ▸ rfl)⟩

theorem upsert_of_notMem {κ α : Type} [DecidableEq κ] {k : κ} {v : α} {l : List (κ × α)}
    (h : k ∉ l.map Prod.fst) : upsert k v l = l ++ [(k, v)] := by
  induction l with
  | nil => rfl
  | cons e rest ih =>
    rw [List.map_cons, List.mem_cons, not_or] at h
    rw [upsert, if_neg (fun he => h.1 he.symm), ih h.2]
    rfl

theorem mem_upsert {κ α : Type} [DecidableEq κ] {k : κ} {v : α} {l : List (κ × α)} {e : κ × α}
    (h : e ∈ upsert k v l) : e ∈ l ∨ e = (k, v) := by
  induction l with
  | nil => exact Or.inr (List.mem_singleton.mp h)
  | cons d rest ih =>
    rw [upsert] at h
    split at h
    · rcases List.mem_cons.mp h with he | hm
      · exact Or.inr he
      · exact Or.inl (List.mem_cons_of_mem d hm)
    · rcases List.mem_cons.mp h with rfl | hm
      · exact Or.inl List.mem_cons_self
      · exact (ih hm).imp_left (List.mem_cons_of_mem d)

namespace Table

variable {κ α : Type}

theorem mem_keys_of_mem {t : Table κ α} {e : κ × α} (h : e ∈ t.entries) : e.1 ∈ t.keys :=
  List.mem_map_of_mem h

theorem mem_values_of_mem {t : Table κ α} {e : κ × α} (h : e ∈ t.entries) : e.2 ∈ t.values :=
  List.mem_map_of_mem h

variable [DecidableEq κ]

theorem get?_eq_some_iff (t : Table κ α) (k : κ) (v : α) :
    t.get? k = some v ↔ (k, v) ∈ t.entries := by
  rw [← find?_key_iff t.keys_nodup, get?, Option.map_eq_some_iff]
  constructor
  · rintro ⟨e, he, rfl⟩
    have hk : e.1 = k := by simpa using List.find?_some he
    rw [he, ← hk]
  · exact fun h => ⟨(k, v), h, rfl⟩

theorem get?_eq_none_iff (t : Table κ α) (k : κ) : t.get? k = none ↔ k ∉ t.keys := by
  constructor
  · intro h hk
    obtain ⟨⟨l, v⟩, he, rfl⟩ := List.mem_map.mp hk
    rw [(get?_eq_some_iff t l v).mpr he] at h
    cases h
  · intro h
    apply Option.eq_none_iff_forall_ne_some.mpr
    intro v hv
    exact h (mem_keys_of_mem ((get?_eq_some_iff t k v).mp hv))

theorem contains_iff (t : Table κ α) (k : κ) : t.contains k = true ↔ (t.get? k).isSome = true := by
  rw [← not_iff_not, Bool.not_eq_true, Bool.not_eq_true, Option.isSome_eq_false_iff,
    Option.isNone_iff_eq_none, get?_eq_none_iff]
  simp [contains]

theorem get?_insert (t : Table κ α) (k l : κ) (v : α) :
    (t.insert k v).get? l = if k = l then some v else t.get? l := by
  have hfind : ∀ entries : List (κ × α), ((upsert k v entries).find? fun e => e.1 = l) =
      if k = l then some (k, v) else entries.find? fun e => e.1 = l := by
    intro entries
    induction entries with
    | nil => by_cases h : k = l <;> simp [upsert, h]
    | cons e rest ih =>
      rw [upsert]
      by_cases he : e.1 = k
      · by_cases h : k = l <;> simp [he, h]
      · by_cases h : e.1 = l
        · have hkl : k ≠ l := fun hkl => he (h.trans hkl.symm)
          rw [if_neg he, if_neg hkl, List.find?_cons_of_pos (by simpa using h),
            List.find?_cons_of_pos (by simpa using h)]
        · simp [he, h, ih]
  unfold get? insert
  rw [hfind]
  split <;> rfl

/-- Of several entries under one key the last one stays. -/
theorem get?_foldl_insert (l : List (κ × α)) (t : Table κ α) (k : κ) :
    (l.foldl (fun t e => t.insert e.1 e.2) t).get? k =
      ((l.filter fun e => e.1 = k).getLast?.map Prod.snd).or (t.get? k) := by
  induction l generalizing t with
  | nil => rfl
  | cons e rest ih =>
    rw [List.foldl_cons, ih, get?_insert]
    by_cases h : e.1 = k
    · cases hrest : (rest.filter fun e => e.1 = k).getLast? <;>
        simp [h, hrest, List.getLast?_cons]
    · simp [h]

theorem get?_ofList (l : List (κ × α)) (k : κ) :
    (ofList l).get? k = (l.filter fun e => e.1 = k).getLast?.map Prod.snd := by
  rw [ofList, get?_foldl_insert]
  exact Option.or_none

theorem mem_keys_iff (t : Table κ α) (k : κ) : k ∈ t.keys ↔ ∃ v, t.get? k = some v := by
  rw [← Option.isSome_iff_exists, ← contains_iff, contains, List.contains_iff_mem]

theorem get?_insertNew (t : Table κ α) (k l : κ) (v : α) :
    (t.insertNew k v).get? l = (t.get? l).or (if k = l then some v else none) := by
  have hcontains := t.contains_iff k
  cases hk : t.get? k with
  | none =>
    rw [hk] at hcontains
    rw [insertNew, if_neg (mt hcontains.mp Bool.false_ne_true), get?_insert]
    by_cases hkl : k = l
    · rw [if_pos hkl, if_pos hkl, ← hkl, hk, Option.none_or]
    · rw [if_neg hkl, if_neg hkl, Option.or_none]
  | some w =>
    rw [hk] at hcontains
    rw [insertNew, if_pos (hcontains.mpr rfl)]
    by_cases hkl : k = l
    · rw [← hkl, hk, Option.some_or]
    · rw [if_neg hkl, Option.or_none]

/-- Of several entries under one key the first one stays. -/
theorem get?_foldl_insertNew (l : List (κ × α)) (t : Table κ α) (k : κ) :
    (l.foldl (fun t e => t.insertNew e.1 e.2) t).get? k =
      (t.get? k).or ((l.find? fun e => e.1 = k).map Prod.snd) := by
  induction l generalizing t with
  | nil => simp
  | cons e rest ih =>
    rw [List.foldl_cons, ih, get?_insertNew, Option.or_assoc]
    by_cases h : e.1 = k <;> simp [h]

theorem entries_insert_of_notMem {t : Table κ α} {k : κ} (h : k ∉ t.keys) (v : α) :
    (t.insert k v).entries = t.entries ++ [(k, v)] :=
  upsert_of_notMem h

theorem mem_foldl_insert {l : List (κ × α)} {t : Table κ α} {e : κ × α}
    (h : e ∈ (l.foldl (fun t e => t.insert e.1 e.2) t).entries) : e ∈ t.entries ∨ e ∈ l := by
  induction l generalizing t with
  | nil => exact Or.inl h
  | cons d rest ih =>
    rcases ih h with hm | hm
    · rcases mem_upsert hm with hm | rfl
      · exact Or.inl hm
      · exact Or.inr List.mem_cons_self
    · exact Or.inr (List.mem_cons_of_mem d hm)

/-- New keys, told apart from each other, are added at the end in their order. -/
theorem mem_of_mem_ofList {l : List (κ × α)} {e : κ × α} (h : e ∈ (ofList l).entries) : e ∈ l :=
  (mem_foldl_insert h).resolve_left List.not_mem_nil

theorem entries_foldl_insert (l : List (κ × α)) (t : Table κ α)
    (h : (t.keys ++ l.map Prod.fst).Nodup) :
    (l.foldl (fun t e => t.insert e.1 e.2) t).entries = t.entries ++ l := by
  induction l generalizing t with
  | nil => simp
  | cons e rest ih =>
    have hk : e.1 ∉ t.keys := fun hm =>
      (List.nodup_append.mp h).2.2 _ hm _ (List.mem_map_of_mem List.mem_cons_self) rfl
    have hkeys : (t.insert e.1 e.2).keys ++ rest.map Prod.fst =
        t.keys ++ (e :: rest).map Prod.fst := by
      rw [keys_insert, if_neg hk]
      simp
    rw [List.foldl_cons, ih _ (hkeys ▸ h), entries_insert_of_notMem hk, List.append_assoc]
    rfl

theorem entries_ofList {l : List (κ × α)} (h : (l.map Prod.fst).Nodup) :
    (ofList l).entries = l := by
  rw [ofList, entries_foldl_insert l empty (by simpa [empty, keys] using h)]
  rfl

theorem ofList_entries (t : Table κ α) : ofList t.entries = t := by
  have h := entries_ofList t.keys_nodup
  generalize ofList t.entries = u at h ⊢
  cases u
  cases t
  cases h
  rfl

end Table

end HydrationPlan
