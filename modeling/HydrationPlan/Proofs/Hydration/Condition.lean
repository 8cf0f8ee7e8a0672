import HydrationPlan.Hydration.Condition
import HydrationPlan.Proofs.Checked
import HydrationPlan.Proofs.Follow

/-!
# What a condition reads

A condition that is accepted tests a string, a whole number or an id, and the test suits it. Only of
the correlation key list wrappers are removed. Any other condition ends at a value that is no list,
but nothing is asked of the fields before its last one: the condition reads many values at once as
soon as one of them is a list.
-/

namespace HydrationPlan

namespace Test

/-- The test that a predicate asks for. A pattern must be valid. -/
inductive Asks : Predicate → Test → Prop
  | stringEquals (value : String) : Asks (.equals (.string value)) (.stringEquals value)
  | intEquals (value : Int64) : Asks (.equals (.int value)) (.intEquals value)
  | startsWith (text : String) : Asks (.startsWith text) (.startsWith text)
  | matchesPattern {pattern : String} (hvalid : Pattern.isValid pattern = true) :
      Asks (.matchesPattern pattern) (.matchesPattern pattern)

def scalars : Test → List String
  | stringEquals _ | startsWith _ | matchesPattern _ => ["String", "ID"]
  | intEquals _ => ["Int", "Long", "ID"]

end Test

namespace TestableScalar

variable {name : String} {scalar : TestableScalar}

theorem isStringLike_iff (h : ofName? name = some scalar) :
    scalar.isStringLike = true ↔ name ∈ ["String", "ID"] := by
  unfold ofName? at h
  split at h <;> cases h <;> simp [isStringLike]

theorem isIntLike_iff (h : ofName? name = some scalar) :
    scalar.isIntLike = true ↔ name ∈ ["Int", "Long", "ID"] := by
  unfold ofName? at h
  split at h <;> cases h <;> simp [isIntLike]

theorem isSome_ofName? {t : Test} (h : name ∈ t.scalars) : (ofName? name).isSome = true := by
  have hall : ∀ n ∈ t.scalars, (ofName? n).isSome = true := by
    cases t <;> simp [Test.scalars, ofName?]
  exact hall name h

theorem ofType?_eq_some_iff {type : TypeRef} :
    ofType? type = some scalar ↔ ∃ name, type = .named name ∧ ofName? name = some scalar := by
  cases type <;> simp [ofType?]

end TestableScalar

theorem Test.ofPredicate_eq_ok_iff {path : Path} {fieldType name : String}
    {scalar : TestableScalar} (hname : TestableScalar.ofName? name = some scalar)
    {p : Predicate} {t : Test} :
    Test.ofPredicate path fieldType scalar p = .ok t ↔ Asks p t ∧ name ∈ t.scalars := by
  have hstring := TestableScalar.isStringLike_iff hname
  have hint := TestableScalar.isIntLike_iff hname
  constructor
  · intro h
    unfold ofPredicate at h
    split at h
    · split at h <;> cases h
      exact ⟨.stringEquals _, hstring.mp ‹_›⟩
    · split at h <;> cases h
      exact ⟨.intEquals _, hint.mp ‹_›⟩
    · cases h
    · split at h <;> cases h
      exact ⟨.startsWith _, hstring.mp ‹_›⟩
    · split at h
      · split at h <;> cases h
        exact ⟨.matchesPattern ‹_›, hstring.mp ‹_›⟩
      · cases h
  · rintro ⟨hasks, hmem⟩
    cases hasks with
    | stringEquals value => exact if_pos (hstring.mpr hmem)
    | intEquals value => exact if_pos (hint.mpr hmem)
    | startsWith text => exact if_pos (hstring.mpr hmem)
    | matchesPattern hvalid => rw [ofPredicate, if_pos (hstring.mpr hmem), if_pos hvalid]

namespace Condition

variable {s : Site} {w : When} {key : Option Path} {c : Condition}

/-- A condition is accepted exactly if its path ends at a scalar that suits the test. -/
theorem resolve_eq_ok_iff :
    resolve s w key = .ok c ↔
      Path.parse w.sourceField = .ok c.path ∧ Test.Asks w.predicate c.test ∧
        ∃ reached, s.sourceField? c.path = some reached ∧ ∃ name ∈ c.test.scalars,
          testedType reached.field.type (key == some c.path) = .named name := by
  unfold resolve
  dsimp only
  constructor
  · intro h
    split at h
    · cases h
    · rename_i path hpath
      split at h
      · cases h
      · rename_i reached hreached
        split at h
        · cases h
        · rename_i scalar hscalar
          obtain ⟨test, htest, rfl⟩ := map_eq_ok_iff.mp h
          obtain ⟨name, htype, hname⟩ := TestableScalar.ofType?_eq_some_iff.mp hscalar
          obtain ⟨hasks, hmem⟩ := (Test.ofPredicate_eq_ok_iff hname).mp htest
          exact ⟨hpath, hasks, reached, hreached, name, hmem, htype⟩
  · rintro ⟨hpath, hasks, reached, hreached, name, hmem, htype⟩
    obtain ⟨scalar, hname⟩ := Option.isSome_iff_exists.mp (TestableScalar.isSome_ofName? hmem)
    have hscalar := TestableScalar.ofType?_eq_some_iff.mpr ⟨name, htype, hname⟩
    have htest : Test.ofPredicate c.path reached.field.type.text scalar w.predicate = .ok c.test :=
      (Test.ofPredicate_eq_ok_iff hname).mpr ⟨hasks, hmem⟩
    simp only [hpath, hreached, hscalar, htest, Except.map]

end Condition

/-- Some field of the path before its last one is a list. -/
def Site.CrossesList (s : Site) (path : Path) : Prop :=
  ∃ part, part ≠ [] ∧ part <+: path.segments ∧ part ≠ path.segments ∧
    s.engine.ListAt s.parentType part

theorem Site.yieldsList_iff_crossesList {s : Site} {path : Path} {reached : Reached}
    (h : s.sourceField? path = some reached) (hlast : reached.field.type.isList = false) :
    reached.yieldsList = true ↔ s.CrossesList path := by
  rw [Schema.yieldsList_iff h]
  constructor
  · rintro ⟨part, hne, hpart, hlist⟩
    refine ⟨part, hne, hpart, ?_, hlist⟩
    rintro rfl
    obtain ⟨r, hr, hrlist⟩ := hlist
    cases h.symm.trans hr
    exact Bool.false_ne_true (hlast.symm.trans hrlist)
  · rintro ⟨part, hne, hpart, -, hlist⟩
    exact ⟨part, hne, hpart, hlist⟩

namespace Condition

variable {s : Site} {w : When} {key : Option Path} {c : Condition}

/-- An accepted condition ends at a scalar that suits its test, under list wrappers only if it reads
the correlation key. Any other condition reads many values exactly if it crosses a list before its
last field. -/
theorem reads_scalar_of_resolve (h : resolve s w key = .ok c) :
    ∃ reached, s.sourceField? c.path = some reached ∧ Test.Asks w.predicate c.test ∧
      ∃ name ∈ c.test.scalars,
        (key = some c.path → reached.field.type.nonNull.stripLists = .named name) ∧
          (key ≠ some c.path → reached.field.type.nonNull = .named name ∧
            (reached.yieldsList = true ↔ s.CrossesList c.path)) := by
  obtain ⟨-, hasks, reached, hreached, name, hmem, htype⟩ := resolve_eq_ok_iff.mp h
  refine ⟨reached, hreached, hasks, name, hmem, fun hkey => ?_, fun hkey => ?_⟩
  · rwa [beq_iff_eq.mpr hkey, testedType, if_pos rfl] at htype
  · rw [beq_eq_false_iff_ne.mpr hkey, testedType, if_neg Bool.false_ne_true] at htype
    have hlast : reached.field.type.isList = false := by
      rw [TypeRef.isList, TypeRef.listElement?, htype]
      rfl
    exact ⟨htype, Site.yieldsList_iff_crossesList hreached hlast⟩

/-- A page, its author and those who watch it. -/
def page : Site where
  gateway := .ofEngine (.build [
    .object (FieldedType.ofName "Page" |>.withField (.ofType "author" (.named "User"))
      |>.withField (.ofType "watchers" (.list (.named "User")))),
    .object (FieldedType.ofName "User" |>.withField (.ofType "kind" (.named "String")))])
  config := .standard
  parentType := "Page"
  field := .ofType "related" (.nullable (.named "Page"))

theorem authorKind_reads_scalar :
    let c : Condition := ⟨⟨["author", "kind"], by simp⟩, .startsWith "bot"⟩
    resolve page ⟨"author.kind", .startsWith "bot"⟩ none = .ok c ∧
      ∃ reached, page.sourceField? c.path = some reached ∧
        Test.Asks (.startsWith "bot") c.test ∧ ∃ name ∈ c.test.scalars,
          (none = some c.path → reached.field.type.nonNull.stripLists = .named name) ∧
            (none ≠ some c.path → reached.field.type.nonNull = .named name ∧
              (reached.yieldsList = true ↔ page.CrossesList c.path)) := by
  have h : resolve page ⟨"author.kind", .startsWith "bot"⟩ none =
      .ok ⟨⟨["author", "kind"], by simp⟩, .startsWith "bot"⟩ := by rfl
  exact ⟨h, reads_scalar_of_resolve h⟩

/-- The kinds of all who watch a page are read by a condition that is accepted. -/
theorem watcherKinds_accepted :
    let c : Condition := ⟨⟨["watchers", "kind"], by simp⟩, .startsWith "bot"⟩
    resolve page ⟨"watchers.kind", .startsWith "bot"⟩ none = .ok c ∧
      ∃ reached, page.sourceField? c.path = some reached ∧ reached.yieldsList = true := by
  refine ⟨?_, ?_⟩
  · rfl
  · exact ⟨_, rfl, rfl⟩

end Condition

end HydrationPlan
