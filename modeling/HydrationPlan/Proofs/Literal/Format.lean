import HydrationPlan.Literal.Json
import HydrationPlan.Proofs.Json.Format

/-!
# The format of literals

A literal is plain if JSON has a form for it: an enum literal has none, and the entries of an object
are told apart by their names.
-/

namespace HydrationPlan.Literal

theorem contentInduction {P : Literal → Prop} (null : P .null) (boolean : ∀ b, P (.boolean b))
    (int : ∀ n, P (.int n)) (float : ∀ x, P (.float x)) (string : ∀ s, P (.string s))
    (list : ∀ items, (∀ v ∈ items, P v) → P (.list items))
    (object : ∀ entries, (∀ e ∈ entries, P e.2) → P (.object entries))
    (enum : ∀ name, P (.enum name)) : ∀ v, P v := by
  intro v
  refine @Literal.rec P (fun items => ∀ v ∈ items, P v) (fun entries => ∀ e ∈ entries, P e.2)
    (fun e => P e.2) null boolean int float string list object enum ?_ ?_ ?_ ?_ ?_ v
  · nofun
  · intro v rest hv hrest
    exact List.forall_mem_cons.mpr ⟨hv, hrest⟩
  · nofun
  · intro e rest he hrest
    exact List.forall_mem_cons.mpr ⟨he, hrest⟩
  · intro _ v hv
    exact hv

mutual

def Plain (F : Float → Prop) : Literal → Prop
  | float x => F x
  | enum _ => False
  | list items => ItemsPlain F items
  | object entries => (entries.map Prod.fst).Nodup ∧ EntriesPlain F entries
  | _ => True

def ItemsPlain (F : Float → Prop) : List Literal → Prop
  | [] => True
  | v :: rest => Plain F v ∧ ItemsPlain F rest

def EntriesPlain (F : Float → Prop) : List (String × Literal) → Prop
  | [] => True
  | (_, v) :: rest => Plain F v ∧ EntriesPlain F rest

end

section Plain

variable {F : Float → Prop} {items : List Literal} {entries : List (String × Literal)}

theorem plain_list_iff : Plain F (.list items) ↔ ∀ v ∈ items, Plain F v := by
  rw [Plain]
  induction items with
  | nil => simp [ItemsPlain]
  | cons v rest ih => rw [ItemsPlain, ih, List.forall_mem_cons]

theorem plain_object_iff :
    Plain F (.object entries) ↔ (entries.map Prod.fst).Nodup ∧ ∀ e ∈ entries, Plain F e.2 := by
  have hentries : EntriesPlain F entries ↔ ∀ e ∈ entries, Plain F e.2 := by
    induction entries with
    | nil => simp [EntriesPlain]
    | cons e rest ih => rw [EntriesPlain, ih, List.forall_mem_cons]
  rw [Plain, hentries]

end Plain

theorem toJsonItems_eq_map (items : List Literal) : toJsonItems items = items.map toJson := by
  induction items with
  | nil => rfl
  | cons v rest ih => rw [toJsonItems, ih, List.map_cons]

theorem toJsonEntries_eq_map (entries : List (String × Literal)) :
    toJsonEntries entries = entries.map fun e => (e.1, toJson e.2) := by
  induction entries with
  | nil => rfl
  | cons e rest ih => rw [toJsonEntries, ih, List.map_cons]

theorem ofJsonItems?_eq_mapM (items : List Json) : ofJsonItems? items = items.mapM ofJson? := by
  induction items with
  | nil => rfl
  | cons j rest ih => rw [ofJsonItems?, ih, List.mapM_cons]

theorem ofJsonMembers?_eq_mapM (members : List (String × Json)) :
    ofJsonMembers? members = members.mapM fun e => (ofJson? e.2).map (e.1, ·) := by
  induction members with
  | nil => rfl
  | cons e rest ih =>
    rw [ofJsonMembers?, ih, List.mapM_cons]
    cases ofJson? e.2 <;> rfl

theorem printable_toJson {F : Float → Prop} {v : Literal} (h : v.Plain F) :
    v.toJson.Printable F := by
  induction v using contentInduction with
  | int n => exact ⟨⟨n.le_toInt, Int.lt_trans n.toInt_lt (by decide)⟩, rfl⟩
  | float x => exact ⟨h, rfl⟩
  | list items ih =>
    rw [plain_list_iff] at h
    rw [toJson, toJsonItems_eq_map, Json.printable_arr_iff, List.forall_mem_map]
    exact fun v hv => ih v hv (h v hv)
  | object entries ih =>
    rw [plain_object_iff] at h
    rw [toJson, toJsonEntries_eq_map, Json.printable_obj_iff, List.forall_mem_map]
    exact fun e he => ih e he (h.2 e he)
  | enum name => cases h
  | _ => exact ⟨trivial, rfl⟩

theorem ofInt_toInt (n : Int64) : ofInt n.toInt = int n := by
  rw [ofInt, if_pos ⟨n.minValue_le_toInt, n.toInt_le⟩, Int64.ofInt_toInt]

theorem ofJson?_toJson {F : Float → Prop} {v : Literal} (h : v.Plain F) :
    ofJson? v.toJson = some v := by
  induction v using contentInduction with
  | int n => exact congrArg some (ofInt_toInt n)
  | list items ih =>
    rw [plain_list_iff] at h
    have hitems : (items.map toJson).mapM ofJson? = some items := by
      rw [Json.mapM_eq_some_iff, List.forall₂_map_left_iff, List.forall₂_same]
      exact fun v hv => ih v hv (h v hv)
    rw [toJson, toJsonItems_eq_map, ofJson?, ofJsonItems?_eq_mapM, hitems, Option.map_some]
  | object entries ih =>
    rw [plain_object_iff] at h
    have hentries : (entries.map fun e => (e.1, toJson e.2)).mapM
        (fun e => (ofJson? e.2).map (e.1, ·)) = some entries := by
      rw [Json.mapM_eq_some_iff, List.forall₂_map_left_iff, List.forall₂_same]
      intro e he
      rw [ih e he (h.2 e he), Option.map_some]
    rw [toJson, toJsonEntries_eq_map, ofJson?, ofJsonMembers?_eq_mapM, hentries, Option.map_some,
      Table.entries_ofList h.1]
  | enum name => cases h
  | _ => rfl

theorem isFinite_floatOfInt (n : Int) : IsFinite (floatOfInt n) := by
  unfold floatOfInt
  split
  · exact (isFinite_toFloat _).neg
  · exact isFinite_toFloat _

theorem plain_of_ofJson? {j : Json} {v : Literal} (h : ofJson? j = some v)
    (hj : j.Proper IsFinite) : v.Plain IsFinite := by
  induction j using Json.contentInduction generalizing v with
  | int n =>
    cases h
    unfold ofInt
    split
    · trivial
    · exact isFinite_floatOfInt n
  | float x =>
    cases h
    exact hj
  | arr items ih =>
    rw [ofJson?, ofJsonItems?_eq_mapM] at h
    obtain ⟨vs, hvs, rfl⟩ := Option.map_eq_some_iff.mp h
    rw [plain_list_iff]
    intro v hv
    obtain ⟨i, hi, hread⟩ := exists_of_mem_right (Json.mapM_eq_some_iff.mp hvs) hv
    exact ih i hi hread (Json.proper_arr_iff.mp hj i hi)
  | obj members ih =>
    rw [ofJson?, ofJsonMembers?_eq_mapM] at h
    obtain ⟨entries, hentries, rfl⟩ := Option.map_eq_some_iff.mp h
    rw [Json.proper_obj_iff] at hj
    rw [plain_object_iff]
    refine ⟨(Table.ofList entries).keys_nodup, fun e he => ?_⟩
    obtain ⟨i, hi, hread⟩ := Json.mem_of_mapM hentries (Table.mem_of_mem_ofList he)
    exact ih _ hi hread (hj _ hi)
  | refused => cases h
  | _ =>
    cases h
    trivial

theorem depth_toJson_le {j : Json} {v : Literal} {n : Nat} (h : ofJson? j = some v)
    (hj : j.depth ≤ n) : v.toJson.depth ≤ n := by
  induction j using Json.contentInduction generalizing v n with
  | int k =>
    cases h
    unfold ofInt
    split <;> exact Nat.zero_le n
  | arr items ih =>
    rw [ofJson?, ofJsonItems?_eq_mapM] at h
    obtain ⟨vs, hvs, rfl⟩ := Option.map_eq_some_iff.mp h
    obtain ⟨n, rfl⟩ := Nat.exists_eq_add_of_le' (Nat.le_trans (Nat.le_add_left 1 _) hj)
    rw [Json.depth_arr_le] at hj
    rw [toJson, toJsonItems_eq_map, Json.depth_arr_le, List.forall_mem_map]
    intro v hv
    obtain ⟨i, hi, hread⟩ := exists_of_mem_right (Json.mapM_eq_some_iff.mp hvs) hv
    exact ih i hi hread (hj i hi)
  | obj members ih =>
    rw [ofJson?, ofJsonMembers?_eq_mapM] at h
    obtain ⟨entries, hentries, rfl⟩ := Option.map_eq_some_iff.mp h
    obtain ⟨n, rfl⟩ := Nat.exists_eq_add_of_le' (Nat.le_trans (Nat.le_add_left 1 _) hj)
    rw [Json.depth_obj_le] at hj
    rw [toJson, toJsonEntries_eq_map, Json.depth_obj_le, List.forall_mem_map]
    intro e he
    obtain ⟨i, hi, hread⟩ := Json.mem_of_mapM hentries (Table.mem_of_mem_ofList he)
    exact ih _ hi hread (hj _ hi)
  | refused => cases h
  | _ =>
    cases h
    exact Nat.zero_le n

def format : Json.Format Literal := ⟨ofJson?, toJson, Plain⟩

theorem format_sound : format.Sound 0 where
  printable := printable_toJson
  read_write := ofJson?_toJson
  plain := plain_of_ofJson?
  depth_le h _ hj := depth_toJson_le h hj

theorem toJson_eq_null {v : Literal} : v.toJson = .null ↔ v = null := by
  cases v
  case null => exact iff_of_true rfl rfl
  all_goals exact ⟨nofun, nofun⟩

theorem eq_null_of_ofJson? {j : Json} (h : ofJson? j = some null) : j = .null := by
  cases j
  case null => rfl
  case int n =>
    have hint : ofInt n = null := Option.some.inj h
    unfold ofInt at hint
    split at hint <;> cases hint
  case arr items =>
    obtain ⟨_, -, hlist⟩ := Option.map_eq_some_iff.mp h
    cases hlist
  case obj members =>
    obtain ⟨_, -, hobject⟩ := Option.map_eq_some_iff.mp h
    cases hobject
  all_goals cases h

def NonNull (F : Float → Prop) (v : Literal) : Prop := v.Plain F ∧ v ≠ null

/-- Literals that may be absent, where null stands for their absence. -/
def nonNullFormat : Json.Format Literal where
  read
    | .null => none
    | j => ofJson? j
  write := toJson
  Plain := NonNull

theorem nonNullFormat_read_eq_some {j : Json} {v : Literal} (h : nonNullFormat.read j = some v) :
    j ≠ .null ∧ ofJson? j = some v := by
  cases j
  case null => cases h
  all_goals exact ⟨nofun, h⟩

theorem nonNullFormat_sound : nonNullFormat.Sound 0 where
  printable h := printable_toJson h.1
  read_write {F v} h := by
    have hread : ofJson? v.toJson = some v := ofJson?_toJson h.1
    cases v
    case null => exact absurd rfl h.2
    all_goals exact hread
  plain {j v} h hj := by
    obtain ⟨hnull, hread⟩ := nonNullFormat_read_eq_some h
    refine ⟨plain_of_ofJson? hread hj, ?_⟩
    rintro rfl
    exact hnull (eq_null_of_ofJson? hread)
  depth_le h _ hj := depth_toJson_le (nonNullFormat_read_eq_some h).2 hj

theorem optional_nonNullFormat (members : List (String × Json)) (name : String) :
    Json.optional members name nonNullFormat.read = Json.optional members name ofJson? := by
  unfold Json.optional
  split
  · rfl
  · rfl
  · rename_i j hnull hj
    cases j
    case null => exact absurd rfl (hnull · )
    all_goals rfl

end HydrationPlan.Literal
