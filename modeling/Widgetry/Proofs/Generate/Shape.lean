import Widgetry.Node.Digest
import Widgetry.Proofs.Android.Whole
import Widgetry.Proofs.Code.Reading
import Widgetry.Proofs.Ios.Whole

/-!
The shape of generated code. Each node of a tree becomes one line that starts with the name of its
primitive, at the level of its depth, and no other line starts so. What a target shows can therefore
be read back as the digest of the tree.
-/

namespace Widgetry

open Code Code.Phrase

/-! ## Digests at a depth -/

namespace Node

/-- A digest as it is seen in code, where each level takes four blanks. -/
def indents (digest : List (String × Nat)) : List (String × Nat) :=
  digest.map fun entry => (entry.1, 4 * entry.2)

mutual

theorem digestAt_add (depth more : Nat) : (node : Node) →
    digestAt (depth + more) node = (digestAt depth node).map fun entry => (entry.1, entry.2 + more)
  | .view traits children => by
    rw [digestAt, digestAt, List.map_cons, Nat.add_right_comm, digestAllAt_add]
  | .stack traits axis children => by
    rw [digestAt, digestAt, List.map_cons, Nat.add_right_comm, digestAllAt_add]
  | .text .. | .button .. | .image .. | .spacer .. | .progressBar .. | .list .. => rfl

theorem digestAllAt_add (depth more : Nat) : (nodes : List Node) →
    digestAllAt (depth + more) nodes
      = (digestAllAt depth nodes).map fun entry => (entry.1, entry.2 + more)
  | [] => rfl
  | node :: rest => by
    rw [digestAllAt, digestAllAt, List.map_append, digestAt_add, digestAllAt_add]

end

/-- A tree starts with its own primitive. -/
theorem digestAt_eq_cons (depth : Nat) (node : Node) :
    ∃ rest, digestAt depth node = (node.primitive, depth) :: rest := by
  cases node <;> exact ⟨_, rfl⟩

/-- Depths are counted from the root, at whatever level it stands. -/
theorem depths?_indents (level : Nat) (node : Node) :
    depths? (indents (node.digestAt level)) = some node.digest := by
  have hentries : ∀ entries : List (String × Nat),
      (entries.map fun entry => (entry.1, 4 * (entry.2 + level))).mapM (fun shown =>
        if shown.2 < 4 * (0 + level) then none
        else some (shown.1, (shown.2 - 4 * (0 + level)) / 4)) = some entries := by
    intro entries
    induction entries with
    | nil => rfl
    | cons entry rest ih =>
      have hdepth : (4 * (entry.2 + level) - 4 * (0 + level)) / 4 = entry.2 := by omega
      have hleft : ¬ 4 * (entry.2 + level) < 4 * (0 + level) := by omega
      rw [List.map_cons, List.mapM_cons, ih, if_neg hleft, hdepth]
      rfl
  have hseen : indents (node.digestAt level)
      = (node.digestAt 0).map fun entry => (entry.1, 4 * (entry.2 + level)) := by
    rw [← Nat.zero_add level, digestAt_add, indents, List.map_map]
    simp only [Nat.zero_add]
    rfl
  obtain ⟨rest, hdigest⟩ := digestAt_eq_cons 0 node
  rw [hseen, digest, hdigest]
  exact hentries ((node.primitive, 0) :: rest)

end Node

/-! ## Views for iOS -/

namespace Ios

/-- The names of the primitives for iOS. -/
def primitives : Bag String :=
  [("VStack", "Column"), ("HStack", "Row"), ("Text", "Text"), ("Button", "Button"),
    ("AsyncImage", "Image"), ("Spacer", "Spacer"), ("ProgressView", "ProgressBar"),
    ("ScrollView", "List"), ("Color.clear", "Empty")]

theorem lettered_primitives : Lettered primitives := by
  unfold Lettered
  decide

mutual

/-- No stack of a tree leads somewhere. -/
def unlinked : Node → Bool
  | .view _ children => allUnlinked children
  | .stack traits _ children =>
    (traits.action.bind Action.deeplink?).isNone && allUnlinked children
  | _ => true

def allUnlinked : List Node → Bool
  | [] => true
  | node :: rest => unlinked node && allUnlinked rest

end

/-- Modifiers show nothing of their own. -/
theorem marks_modified (level : Nat) (part : Code) {rest : List Code}
    (h : ∀ other ∈ rest, Modifies other) :
    marks primitives quoting level (part :: rest) = marks primitives quoting level [part] := by
  have hrest : marks primitives quoting level rest = [] := by
    induction rest with
    | nil => rfl
    | cons other rest ih =>
      obtain ⟨hother, hrest⟩ := List.forall_mem_cons.1 h
      obtain ⟨text, more, rfl, hdot⟩ := hother.dotted
      have hhead : (phraseText quoting (.word text :: more)).toList.head? = some '.' := by
        rw [phraseText, fragmentText, String.toList_append, List.head?_append, hdot]
        rfl
      rw [marks_cons, marks_line, mark_of_sign lettered_primitives hhead (by decide) (by decide),
        ih hrest, List.append_nil]
  rw [marks_cons, hrest, List.append_nil]

theorem marks_container (level : Nat) (layout : ContainerLayout) (body : List Code) :
    marks primitives quoting level [braces (containerHead layout) body]
      = ((match layout.axis with
          | .horizontal => "Row"
          | .vertical => "Column"), 4 * level) :: marks primitives quoting (level + 1) body := by
  rw [containerHead]
  cases layout.axis with
  | horizontal => exact marks_braces_call lettered_primitives (by decide) rfl _ body
  | vertical => exact marks_braces_call lettered_primitives (by decide) rfl _ body

/-- An image is shown once, whatever stands in its place until it is loaded. -/
theorem marks_image (level : Nat) (uri : String) (resizeMode : Option ResizeMode) :
    marks primitives quoting level [image uri resizeMode] = [("Image", 4 * level)] := by
  have hopens : ∀ rest, Opens "AsyncImage" (phraseText quoting
      (call "AsyncImage" [labelled "url" (call "URL" [labelled "string" (quoted uri)])] ++ rest)) :=
    fun rest => Opens.call "AsyncImage" quoting _ rest
  unfold image
  split
  · rename_i mode _
    have hresized : marks primitives quoting (level + 1) [.line (word "image.resizable()"
        ++ call ".aspectRatio" [labelled "contentMode" (word mode)])] = [] := by
      have hopens : Opens "image.resizable" "image.resizable()" := ⟨'(', [')'], rfl, rfl⟩
      rw [marks_line]
      exact (hopens.cons_word quoting _).mark_eq_nil (by decide) rfl _
    have hplaceholder : marks primitives quoting (level + 1) [say "Color.gray.opacity(0.2)"] = [] := by
      rw [marks_say]
      exact mark_eq_nil (by decide) _
    rw [marks_block lettered_primitives, marks_append, hresized, List.flatMap_cons, sectionBody,
      List.flatMap_nil, List.append_nil, hplaceholder, List.append_nil, List.append_nil,
      (((hopens (word " ")).append Bracket.curly.opening).append " image in").mark (by decide) rfl]
  · exact marks_call (by decide) rfl _ _

mutual

theorem marks_view (level : Nat) : (node : Node) → unlinked node = true →
    marks primitives quoting level (view node) = Node.indents (node.digestAt level)
  | .view traits [], _ => by
    have hclear : mark primitives level "Color.clear" = [("Empty", 4 * level)] :=
      mark_of_find? (by decide) ⟨'C', _, rfl, rfl⟩ level
    rw [view, marks_modified level _ (modifies_traitModifiers traits), marks_say, hclear]
    rfl
  | .view traits (child :: rest), h => by
    rw [view, marks_modified level _ (modifies_traitModifiers traits), marks_container,
      marks_views (level + 1) (child :: rest) h]
    · rfl
    · exact List.cons_ne_nil child rest
  | .stack traits axis children, h => by
    obtain ⟨hlink, hchildren⟩ := Bool.and_eq_true_iff.1 h
    rw [view, linked, Option.isNone_iff_eq_none.1 hlink]
    dsimp only
    rw [marks_modified level _ (modifies_traitModifiers traits), marks_container,
      marks_views (level + 1) children hchildren]
    cases axis <;> rfl
  | .text traits content, _ => by
    rw [view, marks_modified level _ (modifies_text traits)]
    exact marks_call (by decide) rfl _ _
  | .button traits label variant size, _ => by
    rw [view, marks_modified level _ (modifies_button traits variant size)]
    exact marks_call (by decide) rfl _ _
  | .image traits uri resizeMode _, _ => by
    rw [view, marks_modified level _ (modifies_traitModifiers traits)]
    exact marks_image level uri resizeMode
  | .spacer traits flex, _ => by
    have hspacer : mark primitives level "Spacer()" = [("Spacer", 4 * level)] :=
      mark_of_find? (by decide) ⟨'S', _, rfl, rfl⟩ level
    rw [view, marks_modified level _ (modifies_spacer traits flex), marks_say, hspacer]
    rfl
  | .progressBar traits progress indeterminate, _ => by
    rw [view, marks_modified level _ (modifies_traitModifiers traits)]
    exact marks_call (by decide) rfl _ _
  | .list traits items renderItem horizontal, _ => by
    rw [view, marks_modified level _ (modifies_traitModifiers traits),
      marks_braces_call lettered_primitives (by decide) rfl, marks_remark lettered_primitives]
    rfl

theorem marks_views (level : Nat) : (nodes : List Node) → allUnlinked nodes = true →
    marks primitives quoting level (views nodes) = Node.indents (Node.digestAllAt level nodes)
  | [], _ => rfl
  | node :: rest, h => by
    obtain ⟨hnode, hrest⟩ := Bool.and_eq_true_iff.1 h
    rw [views, marks_append, marks_view level node hnode, marks_views level rest hrest,
      Node.digestAllAt, Node.indents, Node.indents, Node.indents, List.map_append]

end

/-- The lines around a view show nothing. -/
theorem marks_viewFile (root : Root) :
    marks primitives quoting 0 (viewFile root) = marks primitives quoting 2 (view root.tree) := by
  have himport : marks primitives quoting 0 [say "import SwiftUI"] = [] := by
    rw [marks_say]
    exact mark_eq_nil (by decide) 0
  have hstruct : Opens "struct" s!"struct {identifier root.rootId}: View" :=
    (Opens.append ⟨' ', [], rfl, rfl⟩ _).append _
  have hbody : Opens "var" "var body: some View" := ⟨' ', "body: some View".toList, rfl, rfl⟩
  rw [viewFile, marks_cons, himport, marks_cons, marks_blank lettered_primitives,
    marks_enclose lettered_primitives hstruct (by decide) rfl,
    marks_enclose lettered_primitives hbody (by decide) rfl]
  rfl

end Ios

/-! ## Screens for Android -/

namespace Android

/-- The names of the primitives for Android. -/
def primitives : Bag String :=
  [("Column", "Column"), ("Row", "Row"), ("Text", "Text"), ("Button", "Button"),
    ("OutlinedButton", "Button"), ("TextButton", "Button"), ("AsyncImage", "Image"),
    ("Spacer", "Spacer"), ("LinearProgressIndicator", "ProgressBar"), ("LazyColumn", "List"),
    ("LazyRow", "List"), ("Box", "Empty")]

theorem lettered_primitives : Lettered primitives := by
  unfold Lettered
  decide

mutual

theorem marks_composable (level : Nat) (inContainer : Bool) : (node : Node) →
    marks primitives quoting level (composable .screen inContainer node)
      = Node.indents (node.digestAt level)
  | .view traits [] => by
    rw [composable]
    exact marks_call (by decide) rfl _ _
  | .view traits (child :: rest) => by
    rw [composable, marks_braces_call lettered_primitives (by decide) rfl,
      marks_composables (level + 1) (child :: rest)]
    · rfl
    · exact List.cons_ne_nil child rest
  | .stack traits .vertical children => by
    rw [composable, containerName, marks_braces_call lettered_primitives (by decide) rfl,
      marks_composables (level + 1) children]
    rfl
  | .stack traits .horizontal children => by
    rw [composable, containerName, marks_braces_call lettered_primitives (by decide) rfl,
      marks_composables (level + 1) children]
    rfl
  | .text traits content => by
    rw [composable]
    exact marks_call (by decide) rfl _ _
  | .button traits label variant size => by
    rw [composable]
    rcases variant with _ | (_ | _ | _) <;> exact marks_call (by decide) rfl _ _
  | .image traits uri resizeMode _ => by
    rw [composable]
    exact marks_call (by decide) rfl _ _
  | .spacer traits flex => by
    rw [composable]
    exact marks_call (by decide) rfl _ _
  | .progressBar traits progress indeterminate => by
    rw [composable]
    exact marks_call (by decide) rfl _ _
  | .list traits items renderItem horizontal => by
    have hlazy : IsName (lazyName .screen horizontal) ∧
        Bag.find? (lazyName .screen horizontal) primitives = some "List" := by
      rcases horizontal with _ | (_ | _) <;> decide
    rw [composable, marks_braces_call lettered_primitives hlazy.1 hlazy.2,
      marks_remark lettered_primitives]
    rfl

theorem marks_composables (level : Nat) : (nodes : List Node) →
    marks primitives quoting level (composables .screen nodes)
      = Node.indents (Node.digestAllAt level nodes)
  | [] => rfl
  | node :: rest => by
    rw [composables, marks_append, marks_composable level true node, marks_composables level rest,
      Node.digestAllAt, Node.indents, Node.indents, Node.indents, List.map_append]

end

theorem marks_header (package : String) (imports : List String) :
    marks primitives quoting 0 (header package imports) = [] := by
  have hpackage : Opens "package" ("package " ++ package) := Opens.append ⟨' ', [], rfl, rfl⟩ _
  have himport : ∀ name, Opens "import" ("import " ++ name) := fun name =>
    Opens.append ⟨' ', [], rfl, rfl⟩ _
  have himports : marks primitives quoting 0 (imports.map fun name => say ("import " ++ name))
      = [] := by
    induction imports with
    | nil => rfl
    | cons name rest ih =>
      rw [List.map_cons, marks_cons, marks_say, (himport name).mark_eq_nil (by decide) rfl, ih,
        List.append_nil]
  rw [header, marks_cons, marks_say, hpackage.mark_eq_nil (by decide) rfl, marks_cons,
    marks_blank lettered_primitives, himports]
  rfl

/-- The lines around the calls of a screen show nothing. -/
theorem marks_screenFile (package : String) (root : Root) :
    marks primitives quoting 0 (screenFile package root)
      = marks primitives quoting 1 (composable .screen false root.tree) := by
  have hcomposable : mark primitives 0 "@Composable" = [] :=
    mark_of_sign lettered_primitives rfl (by decide) (by decide) 0
  have hfun : Opens "fun" s!"fun {identifier root.rootId}()" :=
    (Opens.append ⟨' ', [], rfl, rfl⟩ _).append _
  have hcontext : marks primitives quoting 1
      (if usesContext root.tree then [say "val context = LocalContext.current"] else []) = [] := by
    split
    · rw [marks_say]
      exact mark_eq_nil (by decide) 1
    · rfl
  rw [screenFile, marks_append, marks_header, marks_cons, marks_blank lettered_primitives,
    screenFunction, marks_cons, marks_say, hcomposable,
    marks_enclose lettered_primitives hfun (by decide) rfl, marks_append, hcontext]
  rfl

end Android

/-! ## Both targets -/

/-- Main statement: what a screen for Android shows is the digest of the tree, and so is what a view
for iOS shows, as long as no stack of the tree leads somewhere. -/
theorem readDigest_generated (root : Root) (package : String)
    (hpackage : ∀ c ∈ package.toList, Android.isPackageChar c = true) :
    readDigest Android.primitives (print Android.quoting (Android.screenFile package root))
      = some root.tree.digest ∧
    (Ios.unlinked root.tree = true →
      readDigest Ios.primitives (print Ios.quoting (Ios.viewFile root)) = some root.tree.digest ∧
      readDigest Ios.primitives (print Ios.quoting (Ios.viewFile root))
        = readDigest Android.primitives
          (print Android.quoting (Android.screenFile package root))) := by
  have handroid : readDigest Android.primitives
      (print Android.quoting (Android.screenFile package root)) = some root.tree.digest := by
    rw [readDigest_print _ _ (Android.whole_screenFile hpackage root), Android.marks_screenFile,
      Android.marks_composable, Node.depths?_indents]
  refine ⟨handroid, fun hunlinked => ?_⟩
  have hios : readDigest Ios.primitives (print Ios.quoting (Ios.viewFile root))
      = some root.tree.digest := by
    rw [readDigest_print _ _ (Ios.whole_viewFile root), Ios.marks_viewFile,
      Ios.marks_view 2 root.tree hunlinked, Node.depths?_indents]
  exact ⟨hios, hios.trans handroid.symm⟩

/-- A text that looks like a line of its own is not taken for one. -/
theorem readDigest_generated_text :
    let root := Root.ofTree "Text(\n"
      (.stack {} .horizontal [.text {} (.string "\nText("), .view {} []])
    (∀ c ∈ "com.example.app".toList, Android.isPackageChar c = true) ∧
      Ios.unlinked root.tree = true ∧
      readDigest Ios.primitives (print Ios.quoting (Ios.viewFile root))
        = some [("Row", 0), ("Text", 1), ("Empty", 1)] := by
  intro root
  have hpackage : ∀ c ∈ "com.example.app".toList, Android.isPackageChar c = true :=
    List.all_eq_true.1 (by decide)
  have hunlinked : Ios.unlinked root.tree = true := rfl
  exact ⟨hpackage, hunlinked, ((readDigest_generated root "com.example.app" hpackage).2 hunlinked).1⟩

end Widgetry
