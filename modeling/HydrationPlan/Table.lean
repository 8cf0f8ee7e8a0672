/-!
# Tables in insertion order

A table maps keys to values and remembers the order in which the keys were first inserted. Every
key occurs once.
-/

namespace HydrationPlan

/-- Replaces the value under `k` in place, or appends a new entry. -/
def upsert {κ α : Type} [DecidableEq κ] (k : κ) (v : α) : List (κ × α) → List (κ × α)
  | [] => [(k, v)]
  | e :: rest => if e.1 = k then (k, v) :: rest else e :: upsert k v rest

theorem map_fst_upsert {κ α : Type} [DecidableEq κ] (k : κ) (v : α) (l : List (κ × α)) :
    (upsert k v l).map Prod.fst =
      if k ∈ l.map Prod.fst then l.map Prod.fst else l.map Prod.fst ++ [k] := by
  induction l with
  | nil => simp [upsert]
  | cons e rest ih =>
    by_cases h : e.1 = k
    · simp [upsert, h]
    · have h' : ¬ k = e.1 := fun hk => h hk.symm
      simp only [upsert, h, if_false, List.map_cons, ih, List.mem_cons, h', false_or]
      split <;> simp

theorem nodup_upsert {κ α : Type} [DecidableEq κ] (k : κ) (v : α) {l : List (κ × α)}
    (h : (l.map Prod.fst).Nodup) : ((upsert k v l).map Prod.fst).Nodup := by
  rw [map_fst_upsert]
  split
  · exact h
  · rename_i hk
    rw [List.nodup_append]
    refine ⟨h, by simp, ?_⟩
    intro a ha b hb hab
    simp only [List.mem_singleton] at hb
    subst hab
    subst hb
    exact hk ha

structure Table (κ α : Type) where
  entries : List (κ × α)
  keys_nodup : (entries.map Prod.fst).Nodup

namespace Table

variable {κ α : Type}

def empty : Table κ α := ⟨[], by simp⟩

instance : EmptyCollection (Table κ α) := ⟨empty⟩

instance : Inhabited (Table κ α) := ⟨empty⟩

def keys (t : Table κ α) : List κ := t.entries.map Prod.fst

def values (t : Table κ α) : List α := t.entries.map Prod.snd

def size (t : Table κ α) : Nat := t.entries.length

def isEmpty (t : Table κ α) : Bool := t.entries.isEmpty

def mapValues {β : Type} (f : α → β) (t : Table κ α) : Table κ β :=
  ⟨t.entries.map fun e => (e.1, f e.2), by simpa [Function.comp_def] using t.keys_nodup⟩

variable [DecidableEq κ]

def get? (t : Table κ α) (k : κ) : Option α :=
  (t.entries.find? fun e => e.1 = k).map Prod.snd

def contains (t : Table κ α) (k : κ) : Bool := t.keys.contains k

/-- A key that is already present keeps its place. -/
def insert (t : Table κ α) (k : κ) (v : α) : Table κ α :=
  ⟨upsert k v t.entries, nodup_upsert k v t.keys_nodup⟩

/-- A key that is already present keeps its value. -/
def insertNew (t : Table κ α) (k : κ) (v : α) : Table κ α :=
  if t.contains k then t else t.insert k v

def ofList (entries : List (κ × α)) : Table κ α :=
  entries.foldl (fun t e => t.insert e.1 e.2) empty

@[simp] theorem keys_insert (t : Table κ α) (k : κ) (v : α) :
    (t.insert k v).keys = if k ∈ t.keys then t.keys else t.keys ++ [k] :=
  map_fst_upsert k v t.entries

end Table

end HydrationPlan
