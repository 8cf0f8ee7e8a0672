import HydrationPlan.Literal.Coercion
import HydrationPlan.Proofs.Plan.Compilation

/-!
# Input shapes of a plan

The check of a value against an argument and the shape of the value are two walks over the same
types. Where objects are stored under their names the second never fails after the first, and every
shape of a plan fills its input object.
-/

namespace HydrationPlan.Gateway

/-- What passed the check has a shape, so that every such gateway compiles, and the shapes of its
plan are complete. -/
theorem compile_shapes {g : Gateway} (ho : g.engine.ObjectsKeyed) (config : Config)
    (rules : LiteralRules) :
    (∀ isBatch source backing,
      g.engine.checkAssignable config isBatch .sourceField source backing = .ok () →
        ∃ shape, g.engine.inputShape source backing = .ok shape ∧
          g.engine.Shapes config (g.engine.BuildsIfKeyed config) source backing shape) ∧
      ∃ c, g.compile config rules = .ok c ∧ ∀ e ∈ c.plan.fields.entries, ∀ i ∈ e.2,
        ∀ a ∈ i.arguments, ∀ path source yieldsList shape,
          a.value = .sourceField path source yieldsList shape →
            g.engine.Shapes config (g.engine.BuildsIfKeyed config) source a.backingType shape := by
  refine ⟨fun _ _ _ => Schema.exists_inputShape ho, ?_⟩
  obtain ⟨c, hc⟩ := compile_isOk ho config rules
  refine ⟨c, hc, fun e he i hi a ha path source yieldsList shape hv => ?_⟩
  obtain ⟨s, hs, -, hall⟩ := yields_of_compile hc he
  obtain ⟨rfl, rfl, -⟩ := mem_sites_iff.mp hs
  obtain ⟨_, -, h, hground, hyields⟩ := exists_of_mem_right hall hi
  obtain ⟨-, hcheck, hshape⟩ := Hydration.source_of_resolveArguments hyields.arguments ha hv
  rw [Hydration.engine, hground.site] at hcheck hshape
  obtain ⟨shape', hshape', h⟩ := Schema.exists_inputShape ho hcheck
  exact Except.ok.inj (hshape.symm.trans hshape') ▸ h

/-- Documents that are copied into the folder that they lie in. A folder is found by an input that
holds the input of its parent, whatever that is. -/
def folders (parentInput : InputType) : Gateway :=
  let find : Field := Field.ofType "find" (.nullable (.named "Folder"))
    |>.withArgument ⟨"folder", none, .named "FolderInput", none⟩
  let query := FieldedType.ofName "Query" |>.withField find
  let folder := FieldedType.ofName "Folder"
    |>.withField (.ofType "id" (.named "ID"))
    |>.withField (.ofType "parent" (.nullable (.named "Folder")))
  let folderInput := InputType.ofName "FolderInput"
    |>.withField ⟨"id", none, .named "ID", none⟩
    |>.withField ⟨"note", none, .nullable (.named "String"), none⟩
    |>.withField ⟨"parent", none, .nullable (.named "ParentInput"), none⟩
  let document := FieldedType.ofName "Document"
    |>.withField (.ofType "folder" (.named "Folder"))
    |>.withField (Field.ofType "copy" (.nullable (.named "Folder"))
      |>.withHydrated (Hydrated.ofBacking "files" "find"
        |>.withArgument "folder" (.string "$source.folder")))
  let withParentInput (s : Schema) : Schema :=
    { s with types := s.types.insert "ParentInput" (.inputObject parentInput) }
  ofEngine (withParentInput
      (.build [.object query, .object folder, .inputObject folderInput, .object document]))
    |>.withService ⟨"files", withParentInput
      (.build [.object query, .object folder, .inputObject folderInput])⟩

/-- The two inputs hold each other. -/
def nestedFolders : Gateway :=
  folders (InputType.ofName "ParentInput"
    |>.withField ⟨"parent", none, .nullable (.named "FolderInput"), none⟩)

/-- The input of a parent carries the name of the other input, and asks for what no folder has. -/
def labelledFolders : Gateway :=
  folders (InputType.ofName "FolderInput" |>.withField ⟨"label", none, .named "String", none⟩)

/-- A folder has no note, and need not have one. -/
theorem nestedFolders_shaped :
    nestedFolders.engine.ObjectsKeyed ∧ nestedFolders.engine.InputsKeyed ∧
      nestedFolders.engine.checkAssignable .standard false .sourceField (.named "Folder")
        (.named "FolderInput") = .ok () ∧
      nestedFolders.engine.inputShape (.named "Folder") (.named "FolderInput") =
        .ok (some ⟨"Folder", "FolderInput", ["id", "parent"]⟩) ∧
      nestedFolders.engine.Shapes .standard
        (nestedFolders.engine.BuildsIfKeyed .standard) (.named "Folder") (.named "FolderInput")
        (some ⟨"Folder", "FolderInput", ["id", "parent"]⟩) ∧
      ∃ c, nestedFolders.compile .standard Literal.rules = .ok c ∧
        c.plan.fields.keys = [⟨"Document", "copy"⟩] ∧
        ∀ e ∈ c.plan.fields.entries, ∀ i ∈ e.2, ∀ a ∈ i.arguments,
          ∀ path source yieldsList shape, a.value = .sourceField path source yieldsList shape →
            nestedFolders.engine.Shapes .standard
              (nestedFolders.engine.BuildsIfKeyed .standard) source a.backingType shape := by
  have ho : nestedFolders.engine.ObjectsKeyed := by decide +kernel
  have hcheck : nestedFolders.engine.checkAssignable .standard false .sourceField
      (.named "Folder") (.named "FolderInput") = .ok () := by cbv
  have hshape : nestedFolders.engine.inputShape (.named "Folder") (.named "FolderInput") =
      .ok (some ⟨"Folder", "FolderInput", ["id", "parent"]⟩) := by cbv
  have hplan : (nestedFolders.compile .standard Literal.rules).map (fun c => c.plan.fields.keys) =
      .ok [⟨"Document", "copy"⟩] := by cbv
  obtain ⟨hshapes, c, hc, hall⟩ := compile_shapes ho .standard Literal.rules
  obtain ⟨shape, hshape', h⟩ := hshapes _ _ _ hcheck
  obtain rfl : some _ = shape := Except.ok.inj (hshape.symm.trans hshape')
  obtain ⟨c', hc', hkeys⟩ := map_eq_ok_iff.mp hplan
  obtain rfl : c = c' := Except.ok.inj (hc.symm.trans hc')
  exact ⟨ho, by decide +kernel, hcheck, hshape, h, c, hc, hkeys, hall⟩

/-- The check has already met an input object of that name, and passes over the other: the folder
is planned to fill an input that it cannot build. -/
theorem labelledFolders_not_shaped :
    labelledFolders.engine.ObjectsKeyed ∧
      labelledFolders.engine.checkAssignable .standard false .sourceField (.named "Folder")
        (.named "FolderInput") = .ok () ∧
      labelledFolders.engine.inputShape (.named "Folder") (.named "FolderInput") =
        .ok (some ⟨"Folder", "FolderInput", ["id", "parent"]⟩) ∧
      (labelledFolders.compile .standard Literal.rules).map (fun c => c.plan.fields.keys) =
        .ok [⟨"Document", "copy"⟩] ∧
      labelledFolders.engine.checkAssignable .standard false .sourceField (.named "Folder")
        (.named "ParentInput") = .error (.missingInputField "Folder" "FolderInput" "label") ∧
      ¬ labelledFolders.engine.Shapes .standard (labelledFolders.engine.Builds .standard)
        (.named "Folder") (.named "FolderInput")
        (some ⟨"Folder", "FolderInput", ["id", "parent"]⟩) := by
  have ho : labelledFolders.engine.ObjectsKeyed := by decide +kernel
  refine ⟨ho, by cbv, by cbv, by cbv, by cbv, fun hshapes => ?_⟩
  obtain ⟨input, hinput, -, -, hfills⟩ := hshapes.fills _ rfl
  obtain rfl : _ = input := Option.some.inj hinput
  have hparent := hfills.fits ⟨"parent", none, .nullable (.named "ParentInput"), none⟩
    (List.mem_of_getElem? (i := 2) rfl) _ rfl
  obtain ⟨x, y, hnames, hleaf⟩ := TypeRef.fits_iff_meet.mp hparent
  cases show some ("Folder", "ParentInput") = some (x, y) from hnames
  have hbuilds : labelledFolders.engine.Builds .standard "Folder" "ParentInput" :=
    (Schema.leafFits_fielded_iff (by decide) rfl rfl).mp hleaf
  have hlabel := Schema.builds_isGreatest.1 _ _ hbuilds _ rfl
    ⟨"label", none, .named "String", none⟩ List.mem_cons_self
  exact absurd hlabel.isSome_or_isOptional (by decide +kernel)

end HydrationPlan.Gateway
