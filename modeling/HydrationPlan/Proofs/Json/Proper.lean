import HydrationPlan.Proofs.Json.FloatText

/-!
# Whatever is read is proper

Every number that is read fits: a whole one its 64 bits, a float the finite numbers.
-/

namespace HydrationPlan.Json

theorem absorb_lt {k : Nat} (hk : k < UInt64.size) (l : List Char) :
    (absorb k l).1 < UInt64.size := by
  induction l generalizing k with
  | nil => exact hk
  | cons c l ih =>
    rw [absorb]
    split
    · rename_i hnext
      exact ih hnext
    · exact hk

theorem proper_wholeNumber (negative : Bool) {n : Nat} (hn : n < UInt64.size) :
    (wholeNumber negative n).Proper IsFinite := by
  have hsize : n < 2 ^ 64 := hn
  unfold wholeNumber
  split
  · exact ⟨by omega, by omega⟩
  · split
    · rename_i hle
      have hhalf : n ≤ 2 ^ 63 := hle.2
      exact ⟨by omega, by omega⟩
    · exact (isFinite_toFloat _).neg

theorem proper_number (negative : Bool) (whole fraction : List Char) (exponent : Option Int) :
    (number negative whole fraction exponent).Proper IsFinite := by
  have hsigned : ∀ x, IsFinite x → IsFinite (signed negative x) := by
    intro x hx
    cases negative
    · exact hx
    · exact hx.neg
  unfold number
  dsimp only
  split
  · exact proper_wholeNumber negative (absorb_lt (by decide) whole)
  · split
    · rename_i x hx
      exact hsigned x (isFinite_of_scale? (isFinite_toFloat _) hx)
    · trivial

theorem proper_scanNumber {negative : Bool} {s : List Char} {p : Json × List Char}
    (h : scanNumber negative s = some p) : p.1.Proper IsFinite := by
  obtain ⟨-, -, f, e, -, -, rfl⟩ := scanNumber_eq_some_iff.mp h
  exact proper_number negative _ f.1 e.1

def Token.Proper : Token → Prop
  | .plain v => v.Proper IsFinite
  | _ => True

theorem proper_nextToken {s : List Char} {p : Option Token × List Char}
    (h : nextToken s = some p) : ∀ t ∈ p.1, t.Proper := by
  intro t ht
  unfold nextToken at h
  split at h
  case h_8 =>
    obtain ⟨q, -, rfl⟩ := Option.map_eq_some_iff.mp h
    cases ht
    trivial
  case h_12 =>
    obtain ⟨q, hq, rfl⟩ := Option.map_eq_some_iff.mp h
    cases ht
    exact proper_scanNumber hq
  case h_13 =>
    split at h
    · cases h
      cases ht
    · obtain ⟨q, hq, rfl⟩ := Option.map_eq_some_iff.mp h
      cases ht
      exact proper_scanNumber hq
  all_goals
    cases h
    try cases ht
    try trivial

theorem proper_tokens {s : List Char} {ts : List Token} (h : tokens s = some ts) :
    ∀ t ∈ ts, t.Proper := by
  induction s using tokens.induct generalizing ts with
  | case1 =>
    rw [tokens_nil] at h
    cases h
    nofun
  | case2 c s hnone =>
    rw [tokens_eq_none (List.cons_ne_nil c s) hnone] at h
    cases h
  | case3 c s token r hnext _ ih =>
    rw [tokens_eq hnext] at h
    obtain ⟨us, hus, rfl⟩ := Option.map_eq_some_iff.mp h
    rw [List.forall_mem_append]
    exact ⟨fun t ht => proper_nextToken hnext t (Option.mem_toList.mp ht), ih hus⟩

def Frame.Proper : Frame → Prop
  | .arr items => ∀ j ∈ items, j.Proper IsFinite
  | .obj members _ => members.close.Proper IsFinite

def Awaiting.Proper : Awaiting → Prop
  | .value _ => True
  | .name members _ => members.close.Proper IsFinite
  | .after v => v.Proper IsFinite

theorem proper_ofText (s : Option String) : (ofText s).Proper IsFinite := by
  cases s <;> trivial

theorem Members.proper_push {members : Members} {name : Option String} {v : Json}
    (hmembers : members.close.Proper IsFinite) (hv : v.Proper IsFinite) :
    (members.push name v).close.Proper IsFinite := by
  cases members with
  | none => trivial
  | some members =>
    cases name with
    | none => trivial
    | some name =>
      have hall : ∀ e ∈ members ++ [(name, v)], e.2.Proper IsFinite := by
        rw [List.forall_mem_append, List.forall_mem_singleton]
        exact ⟨proper_obj_iff.mp hmembers, hv⟩
      exact proper_obj_iff.mpr hall

theorem proper_build? {ts : List Token} {frames : List Frame} {a : Awaiting} {j : Json}
    (h : build? ts frames a = some j) (hts : ∀ t ∈ ts, t.Proper) (hframes : ∀ f ∈ frames, f.Proper)
    (ha : a.Proper) : j.Proper IsFinite := by
  have hnil : (Json.obj []).Proper IsFinite := proper_obj_iff.mpr nofun
  fun_induction build? ts frames a
  all_goals try rw [List.forall_mem_cons] at hts
  all_goals try rw [List.forall_mem_cons] at hframes
  case case1 =>
    cases h
    exact ha
  case case2 ts items frames v ih =>
    have hitems : ∀ i ∈ v :: items, i.Proper IsFinite := List.forall_mem_cons.mpr ⟨ha, hframes.1⟩
    exact ih h hts.2 (List.forall_mem_cons.mpr ⟨hitems, hframes.2⟩) trivial
  case case3 ts items frames v ih =>
    have hitems : ∀ i ∈ v :: items, i.Proper IsFinite := List.forall_mem_cons.mpr ⟨ha, hframes.1⟩
    exact ih h hts.2 hframes.2
      (proper_arr_iff.mpr fun i hi => hitems i (List.mem_reverse.mp hi))
  case case4 ih => exact ih h hts.2 hframes.2 (Members.proper_push hframes.1 ha)
  case case5 ih => exact ih h hts.2 hframes.2 (Members.proper_push hframes.1 ha)
  case case6 ih =>
    exact ih h (List.forall_mem_cons.mp hts.2).2 (List.forall_mem_cons.mpr ⟨ha, hframes⟩) trivial
  case case7 ih => exact ih h hts.2 hframes ha
  case case8 ih => exact ih h hts.2 hframes hnil
  case case9 ts frames _ ih =>
    have harr : (Frame.arr []).Proper := nofun
    exact ih h hts.2 (List.forall_mem_cons.mpr ⟨harr, hframes⟩) trivial
  case case10 ih => exact ih h hts.2 hframes.2 (proper_arr_iff.mpr nofun)
  case case11 ih => exact ih h hts.2 hframes (proper_ofText _)
  case case12 ih => exact ih h hts.2 hframes hts.1
  case case13 => cases h

theorem proper_of_parse? {s : String} {j : Json} (h : parse? s = some j) : j.Proper IsFinite := by
  obtain ⟨ts, hts, hbuild⟩ := parse?_eq_some h
  exact proper_build? hbuild (proper_tokens hts) nofun trivial

end HydrationPlan.Json
