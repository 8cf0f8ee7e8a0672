import HydrationPlan.Path

/-!
# Paths and their texts

A text is cut at its dots, and the pieces become the segments of a path. Dots do not survive the
cut, so that a path is told from its text exactly if its segments have none of them and are not
empty.
-/

namespace HydrationPlan.Path

variable {s : String} {p : Path} {cs : List Char}

/-- No segment is empty or has a dot in it. -/
def IsDotted (p : Path) : Prop := ∀ x ∈ p.segments, x ≠ "" ∧ '.' ∉ x.toList

/-- The text has nothing between two of its dots, or beside one at an end. -/
def IsBroken (s : String) : Prop := s = "" ∨ [] ∈ s.toList.splitOn '.'

theorem pieces_eq_splitOn (cs : List Char) : pieces cs = cs.splitOn '.' := by
  induction cs with
  | nil => rw [pieces, List.splitOn_nil]
  | cons c cs ih =>
    rw [pieces, ih, List.splitOn_cons_eq_if_modifyHead]
    by_cases hdot : c = '.'
    · rw [if_pos hdot, if_pos (beq_iff_eq.mpr hdot)]
    · rw [if_neg hdot, if_neg (mt beq_iff_eq.mp hdot)]
      obtain ⟨piece, rest, hsplit⟩ := List.exists_cons_of_ne_nil (List.splitOn_ne_nil '.' cs)
      rw [hsplit, List.modifyHead_cons]

theorem dot_notMem_of_mem_pieces {piece : List Char} (h : piece ∈ pieces cs) : '.' ∉ piece := by
  induction cs generalizing piece with
  | nil =>
    rw [pieces, List.mem_singleton] at h
    simp [h]
  | cons c cs ih =>
    rw [pieces] at h
    split at h
    · rcases List.mem_cons.mp h with rfl | hrest
      · exact List.not_mem_nil
      · exact ih hrest
    · rename_i hdot
      split at h
      · rw [List.mem_singleton] at h
        simp [h, Ne.symm hdot]
      · rename_i first rest hpieces
        rcases List.mem_cons.mp h with rfl | hrest
        · have hfirst : '.' ∉ first := ih (hpieces ▸ List.mem_cons_self)
          simp [hfirst, Ne.symm hdot]
        · exact ih (hpieces ▸ List.mem_cons_of_mem first hrest)

theorem toList_text (p : Path) :
    p.text.toList = ['.'].intercalate (p.segments.map String.toList) := by
  rw [text, joined, String.toList_intercalate]
  rfl

theorem ofSegments_eq_ok_iff {segments : List String} :
    ofSegments segments = .ok p ↔ p.segments = segments ∧ "" ∉ segments := by
  unfold ofSegments
  have hany : segments.any String.isEmpty = true ↔ "" ∈ segments := by
    simp [List.any_eq_true]
  split
  · rename_i hnil
    exact iff_of_false nofun fun h => p.nonempty (h.1.trans hnil)
  · split
    · rename_i hempty
      exact iff_of_false nofun fun h => h.2 (hany.mp hempty)
    · rename_i hempty
      rw [Except.ok.injEq]
      constructor
      · rintro rfl
        exact ⟨rfl, mt hany.mpr hempty⟩
      · rintro ⟨rfl, -⟩
        rfl

/-- The segments of a path are the pieces of the text that it is read from. -/
theorem parse_eq_ok_iff_splitOn :
    parse s = .ok p ↔
      p.segments.map String.toList = s.toList.splitOn '.' ∧ [] ∉ s.toList.splitOn '.' := by
  have hsegments : p.segments = (s.toList.splitOn '.').map String.ofList ↔
      p.segments.map String.toList = s.toList.splitOn '.' := by
    constructor
    · intro h
      rw [h, List.map_map, String.toList_comp_ofList, List.map_id]
    · intro h
      rw [← h, List.map_map, String.ofList_comp_toList, List.map_id]
  have hempty : "" ∈ (s.toList.splitOn '.').map String.ofList ↔
      [] ∈ s.toList.splitOn '.' := by
    simp [List.mem_map]
  rw [← hsegments, ← hempty, parse]
  split
  · rename_i hs
    rw [String.isEmpty_iff] at hs
    refine iff_of_false nofun fun h => h.2 ?_
    simp [hs]
  · rw [pieces_eq_splitOn, ofSegments_eq_ok_iff]

/-- A path is read from its own text and from no other. -/
theorem parse_eq_ok_iff : parse s = .ok p ↔ p.text = s ∧ p.IsDotted := by
  rw [parse_eq_ok_iff_splitOn]
  constructor
  · rintro ⟨hsegments, hempty⟩
    constructor
    · rw [← String.toList_inj, toList_text, hsegments, List.intercalate_splitOn]
    · intro x hx
      have hpiece : x.toList ∈ s.toList.splitOn '.' := hsegments ▸ List.mem_map_of_mem hx
      constructor
      · rintro rfl
        exact hempty hpiece
      · exact dot_notMem_of_mem_pieces ((pieces_eq_splitOn _).symm ▸ hpiece)
  · rintro ⟨rfl, hdotted⟩
    have hsplit : p.text.toList.splitOn '.' = p.segments.map String.toList := by
      rw [toList_text]
      apply List.splitOn_intercalate
      · intro piece hpiece
        obtain ⟨x, hx, rfl⟩ := List.mem_map.mp hpiece
        exact (hdotted x hx).2
      · exact mt List.map_eq_nil_iff.mp p.nonempty
    refine ⟨hsplit.symm, fun hempty => ?_⟩
    rw [hsplit] at hempty
    obtain ⟨x, hx, hnil⟩ := List.mem_map.mp hempty
    exact (hdotted x hx).1 (String.toList_eq_nil_iff.mp hnil)

theorem parse_isOk_iff : (∃ p, parse s = .ok p) ↔ ¬ IsBroken s := by
  have hbroken : IsBroken s ↔ [] ∈ s.toList.splitOn '.' := by
    refine or_iff_right_of_imp ?_
    rintro rfl
    simp
  rw [hbroken]
  constructor
  · rintro ⟨p, hp⟩
    exact (parse_eq_ok_iff_splitOn.mp hp).2
  · intro hempty
    have hne : (s.toList.splitOn '.').map String.ofList ≠ [] :=
      mt List.map_eq_nil_iff.mp (List.splitOn_ne_nil '.' s.toList)
    refine ⟨⟨_, hne⟩, parse_eq_ok_iff_splitOn.mpr ⟨?_, hempty⟩⟩
    rw [List.map_map, String.toList_comp_ofList, List.map_id]

end HydrationPlan.Path
