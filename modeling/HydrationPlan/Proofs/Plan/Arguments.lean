import HydrationPlan.Literal.Coercion
import HydrationPlan.Proofs.Hydration.Backing
import HydrationPlan.Proofs.Plan.Compilation

/-!
# Arguments of a plan

Whatever the rules for literals are, a plan calls no backing field with arguments that were not
checked, and none without an argument that it needs.
-/

namespace HydrationPlan

namespace Site

variable {rules : LiteralRules} {s : Site} {a : Annotation} {h : Hydration} {i : Instruction}

/-- The instruction calls the backing field of the annotation with a complete list of checked
arguments. -/
def Calls (rules : LiteralRules) (s : Site) (a : Annotation) (i : Instruction) : Prop :=
  ∃ h, s.Grounds a h ∧ i.target = h.target ∧ i.isBatch = h.isBatch ∧ h.Supplied rules i.arguments

theorem Grounds.supplied (hs : s.engine.ArgumentsKeyed) (hg : s.Grounds a h)
    (hy : h.Yields rules i) : h.Supplied rules i.arguments := by
  obtain ⟨name, hfield⟩ := Backing.field?_of_resolve hg.backing
  exact Hydration.supplied_of_resolveArguments (hs.namedBy hfield) hy.arguments

end Site

namespace Gateway

/-- Every gateway that is keyed by name compiles, and no instruction of its plan has an argument
that is missing, doubled or unchecked. -/
theorem compile_supplied {g : Gateway} (hg : g.engine.NameKeyed) (config : Config)
    (rules : LiteralRules) :
    ∃ c, g.compile config rules = .ok c ∧ ∀ e ∈ c.plan.fields.entries,
      ∃ s ∈ g.sites config, s.coordinates = e.1 ∧
        List.Forall₂ (s.Calls rules) s.field.annotations e.2 := by
  obtain ⟨c, hc⟩ := compile_isOk hg.objects config rules
  refine ⟨c, hc, fun e he => ?_⟩
  obtain ⟨s, hs, hcoordinates, hall⟩ := yields_of_compile hc he
  have harguments : s.engine.ArgumentsKeyed := by
    rw [Site.engine, (mem_sites_iff.mp hs).1]
    exact hg.arguments
  refine ⟨s, hs, hcoordinates, hall.imp ?_⟩
  rintro a i ⟨h, hground, hyields⟩
  exact ⟨h, hground, hyields.target, hyields.isBatch_eq, hground.supplied harguments hyields⟩

/-- Shelves that hold the numbers of books. Books are fetched by many numbers at once. -/
def library : Gateway :=
  let booksByIds : Field :=
    Field.ofType "booksByIds" (.list (.named "Book"))
      |>.withArgument ⟨"ids", none, .list (.named "ID"), none⟩
      |>.withArgument ⟨"language", none, .named "ID", none⟩
      |>.withArgument ⟨"limit", none, .named "Int", some (.int 5)⟩
      |>.withArgument ⟨"options", none, .nullable (.named "String"), none⟩
  let books : Field :=
    Field.ofType "books" (.nullable (.list (.named "Book")))
      |>.withArgument ⟨"language", none, .nullable (.named "String"), none⟩
      |>.withArgument ⟨"order", none, .nullable (.named "String"), none⟩
      |>.withHydrated (Hydrated.ofBacking "books" "booksByIds"
        |>.withArgument "ids" (.string "$source.cards.isbn")
        |>.withArgument "language" (.string "$argument.language")
        |>.withArgument "options" (.string "$argument.*")
        |>.withIdentifiedBy "isbn")
  let query := FieldedType.ofName "Query" |>.withField booksByIds
  let card := FieldedType.ofName "Card" |>.withField (.ofType "isbn" (.named "String"))
  let book := FieldedType.ofName "Book" |>.withField (.ofType "isbn" (.named "ID"))
  let shelf := FieldedType.ofName "Shelf"
    |>.withField (.ofType "cards" (.list (.named "Card")))
    |>.withField books
  ofEngine (.build [.object query, .object card, .object book, .object shelf])
    |>.withService ⟨"books", .build [.object query, .object book]⟩

theorem library_supplied :
    library.engine.NameKeyed ∧ ∃ c, library.compile .standard Literal.rules = .ok c ∧
      c.plan.fields.keys = [⟨"Shelf", "books"⟩] ∧ ∀ e ∈ c.plan.fields.entries,
        ∃ s ∈ library.sites .standard, s.coordinates = e.1 ∧
          List.Forall₂ (s.Calls Literal.rules) s.field.annotations e.2 := by
  have hkeyed : library.engine.NameKeyed :=
    ⟨by decide +kernel, by decide +kernel, by decide +kernel⟩
  have hkeys : (library.compile .standard Literal.rules).map (·.plan.fields.keys) =
      .ok [⟨"Shelf", "books"⟩] := by decide +kernel
  obtain ⟨c, hc, h⟩ := compile_supplied hkeyed .standard Literal.rules
  rw [hc] at hkeys
  exact ⟨hkeyed, c, hc, Except.ok.inj hkeys, h⟩

end Gateway

end HydrationPlan
