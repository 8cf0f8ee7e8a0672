import HydrationPlan.Plan.Json
import HydrationPlan.Proofs.Json.Format
import HydrationPlan.Proofs.Json.Reading
import HydrationPlan.Proofs.Path.Text

/-!
# Writing paths and reading them back

A path is written as a text or as a list of its segments. The text is cut at its dots again, so
that it stands only for a path without dots in its segments. The list stands for every path that
has no empty segment.
-/

namespace HydrationPlan.Path

open Json.Format (Sound)

section Text

variable {s : String} {cs : List Char} {segments : List String} {e : Error}

theorem splitOn_eq_cons (cs : List Char) :
    ∃ first rest, cs.splitOn '.' = first :: rest ∧ (first = [] ↔ cs = [] ∨ ['.'] <+: cs) := by
  cases cs with
  | nil => exact ⟨[], [], List.splitOn_nil '.', by simp⟩
  | cons c cs =>
    rw [List.splitOn_cons_eq_if_modifyHead]
    by_cases hdot : c = '.'
    · exact ⟨[], cs.splitOn '.', if_pos (beq_iff_eq.mpr hdot), by simp [hdot]⟩
    · obtain ⟨first, rest, hsplit⟩ := List.exists_cons_of_ne_nil (List.splitOn_ne_nil '.' cs)
      refine ⟨c :: first, rest, ?_, by simp [Ne.symm hdot]⟩
      rw [if_neg (mt beq_iff_eq.mp hdot), hsplit, List.modifyHead_cons]

/-- After the first dot a piece is empty where two dots meet or the text ends. -/
theorem nil_mem_tail_splitOn_iff :
    [] ∈ (cs.splitOn '.').tail ↔ ['.'] <:+ cs ∨ ['.', '.'] <:+: cs := by
  induction cs with
  | nil => simp
  | cons c cs ih =>
    obtain ⟨first, rest, hsplit, hfirst⟩ := splitOn_eq_cons cs
    rw [hsplit, List.tail_cons] at ih
    rw [List.splitOn_cons_eq_if_modifyHead, List.suffix_cons_iff, List.infix_cons_iff,
      List.cons_prefix_cons, hsplit]
    by_cases hdot : c = '.'
    · have hempty : [] = first ↔ cs = [] ∨ ['.'] <+: cs := eq_comm.trans hfirst
      rw [if_pos (beq_iff_eq.mpr hdot), List.tail_cons, List.mem_cons, hempty, ih]
      simp [hdot, or_assoc, or_left_comm, eq_comm]
    · rw [if_neg (mt beq_iff_eq.mp hdot), List.modifyHead_cons, List.tail_cons, ih]
      simp [Ne.symm hdot]

/-- A text is broken by a dot that begins or ends it, and by two dots that meet. -/
theorem isBroken_iff :
    IsBroken s ↔
      s = "" ∨ ['.'] <+: s.toList ∨ ['.'] <:+ s.toList ∨ ['.', '.'] <:+: s.toList := by
  obtain ⟨first, rest, hsplit, hfirst⟩ := splitOn_eq_cons s.toList
  have hempty : [] = first ↔ s = "" ∨ ['.'] <+: s.toList := by
    rw [eq_comm, hfirst, String.toList_eq_nil_iff]
  have htail : [] ∈ rest ↔ ['.'] <:+ s.toList ∨ ['.', '.'] <:+: s.toList := by
    rw [← nil_mem_tail_splitOn_iff, hsplit, List.tail_cons]
  rw [IsBroken, hsplit, List.mem_cons, hempty, htail, or_assoc, ← or_assoc, or_self]

theorem joined_pieces (s : String) : joined ((pieces s.toList).map String.ofList) = s := by
  rw [← String.toList_inj, joined, String.toList_intercalate, List.map_map,
    String.toList_comp_ofList, List.map_id, pieces_eq_splitOn]
  exact List.intercalate_splitOn '.'

theorem ofSegments_eq_error_iff :
    ofSegments segments = .error e ↔
      (segments = [] ∧ e = .noSegments) ∨
        ("" ∈ segments ∧ e = .emptySegment (joined segments)) := by
  have hany : segments.any String.isEmpty = true ↔ "" ∈ segments := by
    simp [List.any_eq_true]
  unfold ofSegments
  split
  · rename_i hnil
    rw [Except.error.injEq]
    simp [hnil, eq_comm]
  · rename_i hne
    split
    · rename_i hempty
      rw [Except.error.injEq]
      simp [hne, hany.mp hempty, eq_comm]
    · rename_i hempty
      simp [hne, mt hany.mpr hempty]

/-- A text that is not read is handed back, unless there is none. -/
theorem parse_eq_error_iff :
    parse s = .error e ↔
      (s = "" ∧ e = .noSegments) ∨
        (s ≠ "" ∧ [] ∈ s.toList.splitOn '.' ∧ e = .emptySegment s) := by
  have hempty : "" ∈ (pieces s.toList).map String.ofList ↔ [] ∈ s.toList.splitOn '.' := by
    rw [pieces_eq_splitOn]
    simp [List.mem_map]
  have hne : (pieces s.toList).map String.ofList ≠ [] := by
    rw [pieces_eq_splitOn]
    exact mt List.map_eq_nil_iff.mp (List.splitOn_ne_nil '.' s.toList)
  rw [parse]
  split
  · rename_i hs
    rw [String.isEmpty_iff] at hs
    rw [Except.error.injEq]
    simp [hs, eq_comm]
  · rename_i hs
    rw [String.isEmpty_iff] at hs
    rw [ofSegments_eq_error_iff, hempty, joined_pieces]
    simp [hs, hne]

end Text

section List

variable {p : Path} {j : Json}

theorem ofJson?_eq_some_iff :
    ofJson? j = some p ↔ j.asList? Json.asString? = some p.segments ∧ "" ∉ p.segments := by
  rw [ofJson?, Option.bind_eq_bind, Option.bind_eq_some_iff]
  constructor
  · rintro ⟨segments, hsegments, hp⟩
    split at hp
    · rename_i q hq
      cases hp
      obtain ⟨rfl, hempty⟩ := ofSegments_eq_ok_iff.mp hq
      exact ⟨hsegments, hempty⟩
    · cases hp
  · rintro ⟨hsegments, hempty⟩
    refine ⟨p.segments, hsegments, ?_⟩
    rw [ofSegments_eq_ok_iff.mpr ⟨rfl, hempty⟩]

/-- A list of texts nests once. -/
theorem texts_sound : (Json.Format.list .text).Sound 1 := Sound.list Json.Format.text_sound

theorem printable_toJson {F : Float → Prop} (p : Path) : p.toJson.Printable F :=
  texts_sound.printable fun _ _ => trivial

theorem asList?_toJson (p : Path) : p.toJson.asList? Json.asString? = some p.segments :=
  texts_sound.read_write (F := fun _ => True) fun _ _ => trivial

/-- Reads a path from the document of its list. -/
def load? (text : String) : Option Path := do
  ofJson? ((← Json.parse? text).within Json.deepest)

theorem depth_toJson_le (p : Path) : p.toJson.depth ≤ 1 :=
  Json.depth_arr_le.mpr <| List.forall_mem_map.mpr fun _ _ => Nat.zero_le 0

theorem load?_compress (p : Path) : load? p.toJson.compress = ofJson? p.toJson := by
  have hdepth : p.toJson.depth ≤ Json.deepest := Nat.le_trans p.depth_toJson_le (by decide)
  rw [load?, Json.parse?_compress p.printable_toJson, Option.bind_eq_bind, Option.bind_some,
    Json.within_eq_self hdepth]

/-- A path is taken back from its list unless it has an empty segment, which only `child` puts
there. -/
theorem ofJson?_toJson (p : Path) :
    ofJson? p.toJson = if "" ∈ p.segments then none else some p := by
  split
  · rename_i hempty
    rw [Option.eq_none_iff_forall_ne_some]
    intro q hq
    obtain ⟨hsegments, hnonempty⟩ := ofJson?_eq_some_iff.mp hq
    rw [asList?_toJson, Option.some.injEq] at hsegments
    exact hnonempty (hsegments ▸ hempty)
  · rename_i hnonempty
    exact ofJson?_eq_some_iff.mpr ⟨asList?_toJson p, hnonempty⟩

end List

/-- Reading a text undoes writing it for the paths whose segments are neither empty nor dotted, and
these are all that is read. Loading a list undoes writing it for every path without an empty
segment, and refuses the others. -/
theorem text_and_list_round_trip :
    (∀ s, (∃ p, parse s = .ok p) ↔ s ≠ "" ∧ ∀ piece ∈ s.toList.splitOn '.', piece ≠ []) ∧
    (∀ s p, parse s = .ok p → p.text = s ∧ p.IsDotted) ∧
    parse "" = .error .noSegments ∧
    (∀ s, s ≠ "" → (∃ p, parse s = .ok p) ∨ parse s = .error (.emptySegment s)) ∧
    (∀ p, p.IsDotted → parse p.text = .ok p) ∧
    (∀ p, "" ∉ p.segments → ofJson? p.toJson = some p ∧ load? p.toJson.compress = some p) ∧
    ∀ p q : Path, (p.child "").isPrefixOf q = true →
      ofSegments q.segments = .error (.emptySegment q.text) ∧ ofJson? q.toJson = none ∧
        load? q.toJson.compress = none := by
  refine ⟨fun s => ?_, fun s p h => parse_eq_ok_iff.mp h, rfl, fun s hs => ?_,
    fun p h => parse_eq_ok_iff.mpr ⟨rfl, h⟩, fun p h => ?_, fun p q h => ?_⟩
  · have hpieces : (∀ piece ∈ s.toList.splitOn '.', piece ≠ []) ↔ [] ∉ s.toList.splitOn '.' :=
      ⟨fun h hnil => h [] hnil rfl, fun h piece hpiece hnil => h (hnil ▸ hpiece)⟩
    rw [parse_isOk_iff, IsBroken, not_or, hpieces]
  · by_cases hempty : [] ∈ s.toList.splitOn '.'
    · exact .inr (parse_eq_error_iff.mpr (.inr ⟨hs, hempty, rfl⟩))
    · exact .inl (parse_isOk_iff.mpr (not_or.mpr ⟨hs, hempty⟩))
  · have hread : ofJson? p.toJson = some p := (ofJson?_toJson p).trans (if_neg h)
    exact ⟨hread, (load?_compress p).trans hread⟩
  · have hempty : "" ∈ q.segments := by
      refine (List.isPrefixOf_iff_prefix.mp h).subset ?_
      exact List.mem_append_right _ (List.mem_singleton_self "")
    have hread : ofJson? q.toJson = none := (ofJson?_toJson q).trans (if_pos hempty)
    exact ⟨ofSegments_eq_error_iff.mpr (.inr ⟨hempty, rfl⟩), hread,
      (load?_compress q).trans hread⟩

def ownerId : Path := ⟨["owner", "id"], by decide⟩

/-- A field that is itself named `owner.id`. -/
def dottedName : Path := ⟨["owner.id"], by decide⟩

theorem ownerId_round_trip :
    parse "owner.id" = .ok ownerId ∧ parse "owner..id" = .error (.emptySegment "owner..id") ∧
      load? dottedName.toJson.compress = some dottedName ∧
      load? (ownerId.child "").toJson.compress = none := by
  obtain ⟨hok, -, -, herror, hparse, hload, hrefused⟩ := text_and_list_round_trip
  have hbroken : ¬ ∃ p, parse "owner..id" = .ok p := mt (hok _).mp (by decide)
  have hdotted : ownerId.IsDotted := by
    unfold IsDotted
    decide
  exact ⟨hparse ownerId hdotted, (herror "owner..id" (by decide)).resolve_left hbroken,
    (hload dottedName (by decide)).2, (hrefused ownerId (ownerId.child "") (by decide)).2.2⟩

end HydrationPlan.Path
