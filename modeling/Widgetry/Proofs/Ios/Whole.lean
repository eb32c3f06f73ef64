import Widgetry.Proofs.Code.Whole

/-!
The code for iOS is whole: texts reach it in quotes, in comments, as identifiers or as numerals, and
all its other words are complete.
-/

namespace Widgetry.Ios

open Code Code.Phrase

/-! ## Values and modifiers -/

theorem whole_number (x : Float) : Phrase.Whole (number x) := whole_measure x .empty

theorem whole_labelled {label : String} {value : Phrase} (hlabel : Complete label)
    (hvalue : Phrase.Whole value) : Phrase.Whole (labelled label value) :=
  hvalue.cons_word (hlabel.append (.literal rfl))

theorem whole_colour (text : String) : Phrase.Whole (colour text) := by
  have hchannel : ∀ (label : String) (value : UInt8), Complete label →
      Phrase.Whole (labelled label (word (Double.fixed 3 (Colour.unit value)))) :=
    fun label value hlabel => whole_labelled hlabel (whole_word (complete_fixed 3 _))
  unfold colour
  split
  · refine whole_call (.literal rfl) ?_
    simp only [List.forall_mem_cons]
    exact ⟨whole_word (.literal rfl), hchannel _ _ (.literal rfl), hchannel _ _ (.literal rfl),
      hchannel _ _ (.literal rfl), hchannel _ _ (.literal rfl), List.forall_mem_nil _⟩
  · -- A colour without channels is looked up by its name, whatever that is.
    exact whole_call_singleton (.literal rfl) (whole_quoted text)

/-- A whole line that starts with a dot. -/
structure Modifies (part : Code) : Prop where
  whole : Code.Whole part
  dotted : ∃ text rest, part = .line (.word text :: rest) ∧ text.toList.head? = some '.'

theorem modifies_modifier {name : String} {arguments : List Phrase} (hname : Complete name)
    (h : ∀ argument ∈ arguments, Phrase.Whole argument) : Modifies (modifier name arguments) where
  whole := whole_call (.append (.literal rfl) hname) h
  dotted := ⟨"." ++ name, _, rfl, by rw [String.toList_append]; rfl⟩

/-- A modifier with one argument. -/
theorem modifies_singleton {name : String} {argument : Phrase} (hname : Complete name)
    (h : Phrase.Whole argument) : Modifies (modifier name [argument]) :=
  modifies_modifier hname (List.forall_mem_singleton.2 h)

/-- Code with its modifiers behind it. -/
theorem whole_modified {part : Code} {rest : List Code} (hpart : Code.Whole part)
    (hrest : ∀ other ∈ rest, Modifies other) : ∀ other ∈ part :: rest, Code.Whole other :=
  List.forall_mem_cons.2 ⟨hpart, fun other hother => (hrest other hother).whole⟩

theorem forall_mem_lineFor {α : Type} {property : Code → Prop} {value : Option α} {line : α → Code}
    (h : ∀ x, value = some x → property (line x)) : ∀ part ∈ lineFor value line, property part := by
  cases value with
  | none => exact List.forall_mem_nil _
  | some x => exact List.forall_mem_singleton.2 (h x rfl)

/-! ## Text -/

theorem complete_fontWeight? (text weight : String) (h : fontWeight? text = some weight) :
    Complete weight := by
  unfold fontWeight? at h
  split at h <;> cases h <;> exact .literal rfl

theorem complete_textAlignment? (text alignment : String)
    (h : textAlignment? text = some alignment) : Complete alignment := by
  unfold textAlignment? at h
  split at h <;> cases h <;> exact .literal rfl

theorem complete_textCase? (text textCase : String) (h : textCase? text = some textCase) :
    Complete textCase := by
  unfold textCase? at h
  split at h <;> cases h <;> exact .literal rfl

theorem modifies_textModifiers (style : Style) : ∀ part ∈ textModifiers style, Modifies part := by
  have hitalic : ∀ part ∈ (if style.text? "fontStyle" = some "italic" then [modifier "italic" []]
      else []), Modifies part := by
    split
    · exact List.forall_mem_singleton.2 (modifies_modifier (.literal rfl) (List.forall_mem_nil _))
    · exact List.forall_mem_nil _
  simp only [textModifiers, List.forall_mem_append]
  refine ⟨⟨⟨⟨⟨⟨⟨?_, ?_⟩, hitalic⟩, ?_⟩, ?_⟩, ?_⟩, ?_⟩, ?_⟩
  · refine forall_mem_lineFor fun size _ => modifies_singleton (.literal rfl) ?_
    exact whole_call_singleton (.literal rfl)
      (whole_labelled (.literal rfl) (whole_number size))
  · refine forall_mem_lineFor fun weight h => modifies_singleton (.literal rfl) (whole_word ?_)
    exact .append (.literal rfl) (complete_of_lookup h complete_fontWeight?)
  · exact forall_mem_lineFor fun color _ => modifies_singleton (.literal rfl) (whole_colour color)
  · exact forall_mem_lineFor fun lines _ => modifies_singleton (.literal rfl) (whole_number lines)
  · refine forall_mem_lineFor fun alignment h => modifies_singleton (.literal rfl) (whole_word ?_)
    exact complete_of_lookup h complete_textAlignment?
  · refine forall_mem_lineFor fun textCase h => modifies_singleton (.literal rfl) (whole_word ?_)
    exact complete_of_lookup h complete_textCase?
  · exact forall_mem_lineFor fun spacing _ => modifies_singleton (.literal rfl) (whole_number spacing)

/-! ## Boxes -/

theorem modifies_sizeModifier (size : Size) : Modifies (sizeModifier size) := by
  have hentries : ∀ entries : List (String × Option Float),
      (∀ entry ∈ entries, Complete entry.1) →
      Modifies (modifier "frame" (entries.filterMap fun entry =>
        entry.2.map fun value => labelled entry.1 (number value))) := by
    intro entries hlabels
    refine modifies_modifier (.literal rfl) fun argument hargument => ?_
    obtain ⟨entry, hentry, hsome⟩ := List.mem_filterMap.1 hargument
    obtain ⟨value, -, rfl⟩ := Option.map_eq_some_iff.1 hsome
    exact whole_labelled (hlabels entry hentry) (whole_number value)
  simp only [sizeModifier]
  split
  · refine hentries _ ?_
    simp only [List.forall_mem_cons]
    exact ⟨.literal rfl, .literal rfl, .literal rfl, .literal rfl, List.forall_mem_nil _⟩
  · refine hentries _ ?_
    simp only [List.forall_mem_cons]
    exact ⟨.literal rfl, .literal rfl, List.forall_mem_nil _⟩

theorem modifies_paddingModifiers (padding : Padding) :
    ∀ part ∈ paddingModifiers padding, Modifies part := by
  cases padding with
  | uniform value =>
    exact List.forall_mem_singleton.2 (modifies_singleton (.literal rfl) (whole_number value))
  | edges horizontal vertical top bottom left right =>
    have hedge : ∀ edge ∈ [(".horizontal", horizontal), (".vertical", vertical), (".top", top),
        (".bottom", bottom), (".leading", left), (".trailing", right)], Complete edge.1 := by
      simp only [List.forall_mem_cons]
      exact ⟨.literal rfl, .literal rfl, .literal rfl, .literal rfl, .literal rfl, .literal rfl,
        List.forall_mem_nil _⟩
    intro part hpart
    obtain ⟨edge, hmem, hsome⟩ := List.mem_filterMap.1 hpart
    obtain ⟨value, -, rfl⟩ := Option.map_eq_some_iff.1 hsome
    refine modifies_modifier (.literal rfl) (List.forall_mem_cons.2 ⟨whole_word (hedge edge hmem), ?_⟩)
    exact List.forall_mem_singleton.2 (whole_number value)

theorem modifies_borderModifier (border : Border) : Modifies (borderModifier border) := by
  refine modifies_singleton (.literal rfl) (.append ?_ ?_)
  · exact whole_call_singleton (.literal rfl)
      (whole_labelled (.literal rfl) (whole_number border.radius))
  · refine whole_call (.literal rfl) (List.forall_mem_cons.2 ⟨whole_colour border.color, ?_⟩)
    exact List.forall_mem_singleton.2 (whole_labelled (.literal rfl) (whole_number border.width))

theorem modifies_shadowModifier (shadow : Shadow) : Modifies (shadowModifier shadow) := by
  have hbase : Phrase.Whole ((shadow.color.map colour).getD (word "Color.black")) := by
    cases shadow.color with
    | none => exact whole_word (.literal rfl)
    | some color =>
      rw [Option.map_some, Option.getD_some]
      exact whole_colour color
  have hopacity : Phrase.Whole (call ".opacity" [number shadow.opacity]) :=
    whole_call_singleton (.literal rfl) (whole_number shadow.opacity)
  refine modifies_modifier (.literal rfl) ?_
  simp only [List.forall_mem_cons]
  exact ⟨whole_labelled (.literal rfl) (hbase.append hopacity),
    whole_labelled (.literal rfl) (whole_number shadow.radius),
    whole_labelled (.literal rfl) (whole_number shadow.offsetX),
    whole_labelled (.literal rfl) (whole_number shadow.offsetY), List.forall_mem_nil _⟩

theorem modifies_boxModifiers (box : Box) : ∀ part ∈ boxModifiers box, Modifies part := by
  simp only [boxModifiers, List.forall_mem_append]
  refine ⟨⟨⟨⟨⟨⟨⟨⟨?_, ?_⟩, ?_⟩, ?_⟩, ?_⟩, ?_⟩, ?_⟩, ?_⟩, ?_⟩
  · exact forall_mem_lineFor fun size _ => modifies_sizeModifier size
  · refine forall_mem_lineFor fun ratio _ => modifies_modifier (.literal rfl) ?_
    refine List.forall_mem_cons.2 ⟨whole_number ratio, List.forall_mem_singleton.2 ?_⟩
    exact whole_labelled (.literal rfl) (whole_word (.literal rfl))
  · exact forall_mem_lineFor fun color _ => modifies_singleton (.literal rfl) (whole_colour color)
  · exact forall_mem_lineFor fun opacity _ => modifies_singleton (.literal rfl) (whole_number opacity)
  · exact forall_mem_lineFor fun radius _ => modifies_singleton (.literal rfl) (whole_number radius)
  · exact forall_mem_lineFor fun border _ => modifies_borderModifier border
  · exact forall_mem_lineFor fun shadow _ => modifies_shadowModifier shadow
  · cases box.padding with
    | none => exact List.forall_mem_nil _
    | some padding => exact modifies_paddingModifiers padding
  · exact forall_mem_lineFor fun z _ => modifies_singleton (.literal rfl) (whole_number z)

/-! ## Accessibility -/

theorem complete_roleTrait? (text role : String) (h : roleTrait? text = some role) :
    Complete role := by
  unfold roleTrait? at h
  split at h <;> cases h <;> exact .literal rfl

theorem modifies_accessibilityModifiers (accessibility : Accessibility) :
    ∀ part ∈ accessibilityModifiers accessibility, Modifies part := by
  simp only [accessibilityModifiers, List.forall_mem_append]
  refine ⟨⟨?_, ?_⟩, ?_⟩
  · exact forall_mem_lineFor fun label _ => modifies_singleton (.literal rfl) (whole_quoted label)
  · split
    · exact List.forall_mem_singleton.2
        (modifies_singleton (.literal rfl) (whole_word (.literal rfl)))
    · exact List.forall_mem_nil _
  · refine forall_mem_lineFor fun role h => modifies_singleton (.literal rfl) (whole_word ?_)
    exact complete_of_lookup h complete_roleTrait?

theorem modifies_traitModifiers (traits : Traits) :
    ∀ part ∈ traitModifiers traits, Modifies part := by
  rw [traitModifiers, List.forall_mem_append]
  refine ⟨modifies_boxModifiers traits.box, ?_⟩
  cases traits.accessibility with
  | none => exact List.forall_mem_nil _
  | some accessibility => exact modifies_accessibilityModifiers accessibility

/-! ## Views -/

theorem whole_containerHead (layout : ContainerLayout) : Phrase.Whole (containerHead layout) := by
  have hrow : Complete (rowAlignment layout.cross) := by
    cases layout.cross <;> exact .literal rfl
  have hcolumn : Complete (columnAlignment layout.cross) := by
    cases layout.cross <;> exact .literal rfl
  have hcall : ∀ container alignment, Complete container → Complete alignment →
      Phrase.Whole (call container
        [labelled "alignment" (word alignment), labelled "spacing" (number layout.gap)]) := by
    intro container alignment hcontainer halignment
    refine whole_call hcontainer (List.forall_mem_cons.2 ⟨?_, List.forall_mem_singleton.2 ?_⟩)
    · exact whole_labelled (.literal rfl) (whole_word halignment)
    · exact whole_labelled (.literal rfl) (whole_number layout.gap)
  rw [containerHead]
  cases layout.axis with
  | horizontal => exact hcall "HStack" _ (.literal rfl) hrow
  | vertical => exact hcall "VStack" _ (.literal rfl) hcolumn

/-- An address in quotes. -/
theorem whole_address (address : String) :
    Phrase.Whole (call "URL" [labelled "string" (quoted address)]) :=
  whole_call_singleton (.literal rfl)
    (whole_labelled (.literal rfl) (whole_quoted address))

theorem whole_image (uri : String) (resizeMode : Option ResizeMode) :
    Code.Whole (image uri resizeMode) := by
  have hhead : Phrase.Whole
      (call "AsyncImage" [labelled "url" (call "URL" [labelled "string" (quoted uri)])]) :=
    whole_call_singleton (.literal rfl)
      (whole_labelled (.literal rfl) (whole_address uri))
  unfold image
  split
  · rename_i mode hmode
    have hword : Complete mode := by
      refine complete_of_lookup hmode fun resize text h => ?_
      cases resize <;> cases h <;> exact .literal rfl
    have hline : Phrase.Whole (word "image.resizable()"
        ++ call ".aspectRatio" [labelled "contentMode" (word mode)]) :=
      (whole_word (.literal rfl)).append (whole_call_singleton (.literal rfl)
        (whole_labelled (.literal rfl) (whole_word hword)))
    exact ⟨hhead.append (whole_word (.literal rfl)), .literal rfl, ⟨hline, trivial⟩,
      whole_word (.literal rfl), .empty, ⟨whole_say (.literal rfl), trivial⟩, trivial⟩
  · exact hhead

theorem whole_linked (traits : Traits) {code : List Code} (h : ∀ part ∈ code, Code.Whole part) :
    ∀ part ∈ linked traits code, Code.Whole part := by
  unfold linked
  split
  · rename_i url _
    refine List.forall_mem_singleton.2 (whole_braces (whole_call (.literal rfl) ?_) h)
    refine List.forall_mem_singleton.2 (whole_labelled (.literal rfl) ?_)
    exact (whole_address url).append (whole_word (.literal rfl))
  · exact h

/-! The modifiers behind the nodes that have some of their own. -/

theorem modifies_text (traits : Traits) :
    ∀ part ∈ (traits.style.map textModifiers).getD [] ++ traitModifiers traits, Modifies part := by
  refine List.forall_mem_append.2 ⟨?_, modifies_traitModifiers traits⟩
  cases traits.style with
  | none => exact List.forall_mem_nil _
  | some style => exact modifies_textModifiers style

theorem modifies_button (traits : Traits) (variant : Option ButtonVariant)
    (size : Option ButtonSize) :
    ∀ part ∈ lineFor variant (fun variant => modifier "buttonStyle" [word (buttonStyle variant)])
      ++ lineFor size (fun size => modifier "controlSize" [word (controlSize size)])
      ++ traitModifiers traits, Modifies part := by
  simp only [List.forall_mem_append]
  refine ⟨⟨?_, ?_⟩, modifies_traitModifiers traits⟩
  · refine forall_mem_lineFor fun variant _ => modifies_singleton (.literal rfl) (whole_word ?_)
    cases variant <;> exact .literal rfl
  · refine forall_mem_lineFor fun size _ => modifies_singleton (.literal rfl) (whole_word ?_)
    cases size <;> exact .literal rfl

theorem modifies_spacer (traits : Traits) (flex : Option Float) :
    ∀ part ∈ (if flex.any (· != 0) then [say ".frame(maxWidth: .infinity, maxHeight: .infinity)"]
      else []) ++ traitModifiers traits, Modifies part := by
  refine List.forall_mem_append.2 ⟨?_, modifies_traitModifiers traits⟩
  split
  · exact List.forall_mem_singleton.2 ⟨whole_say (.literal rfl), _, _, rfl, rfl⟩
  · exact List.forall_mem_nil _

mutual

theorem whole_view : (node : Node) → ∀ part ∈ view node, Code.Whole part
  | .view traits [] => by
    rw [view]
    exact whole_modified (whole_say (.literal rfl)) (modifies_traitModifiers traits)
  | .view traits (child :: rest) => by
    rw [view]
    · exact whole_modified (whole_braces (whole_containerHead _) (whole_views (child :: rest)))
        (modifies_traitModifiers traits)
    · exact List.cons_ne_nil child rest
  | .stack traits axis children => by
    rw [view]
    exact whole_linked traits (whole_modified
      (whole_braces (whole_containerHead _) (whole_views children)) (modifies_traitModifiers traits))
  | .text traits content => by
    rw [view]
    exact whole_modified (whole_call_singleton (.literal rfl) (whole_quoted _))
      (modifies_text traits)
  | .button traits label variant size => by
    have hcall : Phrase.Whole (call "Button" [quoted label]) :=
      whole_call_singleton (.literal rfl) (whole_quoted label)
    rw [view]
    exact whole_modified (hcall.append (whole_word (.literal rfl)))
      (modifies_button traits variant size)
  | .image traits uri resizeMode _ => by
    rw [view]
    exact whole_modified (whole_image uri resizeMode) (modifies_traitModifiers traits)
  | .spacer traits flex => by
    rw [view]
    exact whole_modified (whole_say (.literal rfl)) (modifies_spacer traits flex)
  | .progressBar traits progress indeterminate => by
    rw [view]
    refine whole_modified (whole_call (.literal rfl) ?_) (modifies_traitModifiers traits)
    split
    · exact List.forall_mem_nil _
    · exact List.forall_mem_singleton.2 (whole_labelled (.literal rfl) (whole_number progress))
  | .list traits items renderItem horizontal => by
    have haxis : Complete (if horizontal = some true then ".horizontal" else ".vertical") := by
      split <;> exact .literal rfl
    rw [view]
    exact whole_modified (whole_braces
      (whole_call_singleton (.literal rfl) (whole_word haxis))
      (List.forall_mem_singleton.2 trivial)) (modifies_traitModifiers traits)

theorem whole_views : (nodes : List Node) → ∀ part ∈ views nodes, Code.Whole part
  | [] => List.forall_mem_nil _
  | node :: rest => by
    rw [views, List.forall_mem_append]
    exact ⟨whole_view node, whole_views rest⟩

end

theorem whole_viewFile (root : Root) : ∀ part ∈ viewFile root, Code.Whole part := by
  have hhead : Complete s!"struct {identifier root.rootId}: View" :=
    ((Complete.append (.literal rfl) (complete_identifier _)).append (.literal rfl))
  simp only [viewFile, List.forall_mem_cons]
  refine ⟨whole_say (.literal rfl), trivial, ?_, List.forall_mem_nil _⟩
  refine whole_enclose hhead (List.forall_mem_singleton.2 ?_)
  exact whole_enclose (.literal rfl) (whole_view root.tree)

/-! ## Live activities -/

theorem whole_attributeFields (attributes : Bag AttributeType) :
    ∀ part ∈ attributeFields attributes, Code.Whole part := by
  have htype : ∀ type, Complete (attributeType type) := by
    intro type
    cases type <;> exact .literal rfl
  rw [attributeFields, List.forall_mem_map]
  intro field _
  exact whole_say (((Complete.append (.literal rfl) (complete_identifier _)).append (.literal rfl)).append
    (htype field.2))

theorem whole_region (node : Option Node) (sign : String) :
    ∀ part ∈ region node sign, Code.Whole part := by
  cases node with
  | none =>
    exact List.forall_mem_singleton.2
      (whole_call_singleton (.literal rfl) (whole_quoted sign))
  | some node => exact whole_view node

theorem whole_activityConstants {name : String} (hname : Complete name) (activity : LiveActivity) :
    ∀ part ∈ activityConstants name activity, Code.Whole part := by
  unfold activityConstants
  split
  · have hhead : Complete s!"extension {name}Attributes" :=
      (Complete.append (.literal rfl) hname).append (.literal rfl)
    refine List.forall_mem_cons.2 ⟨trivial, List.forall_mem_singleton.2 (whole_enclose hhead ?_)⟩
    refine List.forall_mem_append.2 ⟨?_, ?_⟩
    · exact forall_mem_lineFor fun date _ => (whole_word (.literal rfl)).append (whole_quoted date)
    · exact forall_mem_lineFor fun score _ => (whole_word (.literal rfl)).append (whole_number score)
  · exact List.forall_mem_nil _

theorem whole_attributesType {name : String} (hname : Complete name)
    (attributes : ActivityAttributes) : Code.Whole (attributesType name attributes) := by
  have hhead : Complete s!"struct {name}Attributes: ActivityAttributes" :=
    (Complete.append (.literal rfl) hname).append (.literal rfl)
  refine whole_enclose hhead (List.forall_mem_cons.2 ⟨?_, ?_⟩)
  · exact whole_enclose (.literal rfl) (whole_attributeFields attributes.changing)
  · split
    · exact List.forall_mem_nil _
    · exact List.forall_mem_cons.2 ⟨trivial, whole_attributeFields attributes.fixed⟩

theorem whole_island (regions : ActivityRegions) : Code.Whole (island regions) := by
  have hregion : ∀ node sign, AllWhole (region node sign) := fun node sign =>
    (allWhole_iff _).2 (whole_region node sign)
  have hempty : Phrase.Whole (call "Text" [quoted ""]) :=
    whole_call_singleton (.literal rfl) (whole_quoted "")
  have hexpanded : Code.Whole (enclose "DynamicIslandExpandedRegion(.leading)"
      (region (regions.dynamicIsland.bind (·.expanded)) "Expanded")) :=
    whole_enclose (.literal rfl) (whole_region _ _)
  exact ⟨whole_word (.literal rfl), .empty, ⟨hexpanded, trivial⟩,
    whole_word (.literal rfl), .empty, hregion _ _,
    whole_word (.literal rfl), .empty, ⟨hempty, trivial⟩,
    whole_word (.literal rfl), .empty, hregion _ _, trivial⟩

theorem whole_activityWidget {name : String} (hname : Complete name) (regions : ActivityRegions) :
    Code.Whole (activityWidget name regions) := by
  have hhead : Complete s!"struct {name}ActivityWidget: Widget" :=
    (Complete.append (.literal rfl) hname).append (.literal rfl)
  have hattributes : Phrase.Whole
      (call "ActivityConfiguration" [labelled "for" (word (name ++ "Attributes.self"))]) :=
    whole_call (.literal rfl) (List.forall_mem_singleton.2
      (whole_labelled (.literal rfl) (whole_word (hname.append (.literal rfl)))))
  have hlock := (allWhole_iff _).2 (whole_region regions.lockScreen "Activity")
  refine whole_enclose hhead (List.forall_mem_singleton.2 ?_)
  refine whole_enclose (.literal rfl) (List.forall_mem_singleton.2 ?_)
  exact ⟨hattributes.append (whole_word (.literal rfl)), .literal rfl, hlock,
    whole_word (.literal rfl), .literal rfl, ⟨whole_island regions, trivial⟩, trivial⟩

theorem whole_activityFile (activity : LiveActivity) :
    ∀ part ∈ activityFile activity, Code.Whole part := by
  have hname := complete_identifier activity.activityType
  simp only [activityFile, List.forall_mem_append, List.forall_mem_cons]
  exact ⟨⟨⟨whole_say (.literal rfl), whole_say (.literal rfl), whole_say (.literal rfl), trivial,
      whole_attributesType hname activity.attributes, List.forall_mem_nil _⟩,
    whole_activityConstants hname activity⟩,
    trivial, whole_activityWidget hname activity.regions, List.forall_mem_nil _⟩

/-! ## Widgets -/

theorem whole_reloadPolicy (policy : Option TimelinePolicy) :
    Phrase.Whole (reloadPolicy policy) := by
  unfold reloadPolicy
  split
  · exact whole_word (.literal rfl)
  · split
    · rename_i minutes _
      have hdate : Phrase.Whole (call "Calendar.current.date"
          [labelled "byAdding" (word ".minute"), labelled "value" (number minutes),
            labelled "to" (word "Date()")]) := by
        refine whole_call (.literal rfl) ?_
        simp only [List.forall_mem_cons]
        exact ⟨whole_labelled (.literal rfl) (whole_word (.literal rfl)),
          whole_labelled (.literal rfl) (whole_number minutes),
          whole_labelled (.literal rfl) (whole_word (.literal rfl)), List.forall_mem_nil _⟩
      exact whole_call_singleton (.literal rfl)
        (hdate.append (whole_word (.literal rfl)))
    · exact whole_word (.literal rfl)
  · exact whole_word (.literal rfl)

theorem whole_provider {name : String} (hname : Complete name) (widget : Widget) :
    Code.Whole (provider name widget) := by
  have hhead : Complete s!"struct {name}Provider: TimelineProvider" :=
    (Complete.append (.literal rfl) hname).append (.literal rfl)
  have htimeline : Phrase.Whole (call "Timeline"
      [labelled "entries" (word "[BrikEntry(date: Date())]"),
        labelled "policy" (reloadPolicy (widget.timeline.bind (·.policy)))]) := by
    refine whole_call (.literal rfl) (List.forall_mem_cons.2 ⟨?_, List.forall_mem_singleton.2 ?_⟩)
    · exact whole_labelled (.literal rfl) (whole_word (.literal rfl))
    · exact whole_labelled (.literal rfl) (whole_reloadPolicy _)
  refine whole_enclose hhead ?_
  simp only [List.forall_mem_cons]
  refine ⟨?_, trivial, ?_, trivial, ?_, List.forall_mem_nil _⟩
  · exact whole_enclose (.literal rfl) (List.forall_mem_singleton.2 (whole_say (.literal rfl)))
  · exact whole_enclose (.literal rfl) (List.forall_mem_singleton.2 (whole_say (.literal rfl)))
  · exact whole_enclose (.literal rfl) (List.forall_mem_singleton.2
      (whole_call_singleton (.literal rfl) htimeline))

theorem whole_registration {name : String} (hname : Complete name) (widget : Widget) :
    Code.Whole (registration name widget) := by
  have hhead : Complete s!"struct {name}Widget: Widget" :=
    (Complete.append (.literal rfl) hname).append (.literal rfl)
  have hconfiguration : Phrase.Whole (call "StaticConfiguration"
      [labelled "kind" (word "kind"), labelled "provider" (call (name ++ "Provider") [])]) := by
    refine whole_call (.literal rfl) (List.forall_mem_cons.2 ⟨?_, List.forall_mem_singleton.2 ?_⟩)
    · exact whole_labelled (.literal rfl) (whole_word (.literal rfl))
    · exact whole_labelled (.literal rfl)
        (whole_call (hname.append (.literal rfl)) (List.forall_mem_nil _))
  have hfamilies : Phrase.Whole
      [.group .square (joined ", " (widget.families.map fun f => word (family f)))] := by
    refine whole_group .square (whole_joined (.literal rfl) ?_)
    rw [List.forall_mem_map]
    intro f _
    exact whole_word (by cases f <;> exact .literal rfl)
  refine whole_enclose hhead ?_
  simp only [List.forall_mem_cons]
  refine ⟨(whole_word (.literal rfl)).append (whole_quoted _), trivial, ?_, List.forall_mem_nil _⟩
  refine whole_enclose (.literal rfl) ?_
  simp only [List.forall_mem_cons, List.forall_mem_append]
  refine ⟨?_, (modifies_singleton (.literal rfl) (whole_quoted _)).whole, ?_, ?_,
    List.forall_mem_nil _⟩
  · exact ⟨hconfiguration.append (whole_word (.literal rfl)), .literal rfl,
      ⟨whole_call hname (List.forall_mem_nil _), trivial⟩, trivial⟩
  · exact forall_mem_lineFor fun text _ =>
      (modifies_singleton (.literal rfl) (whole_quoted text)).whole
  · exact (modifies_singleton (.literal rfl) hfamilies).whole

theorem whole_bundleFile {widgets : List (String × Widget)}
    (hnames : ∀ widget ∈ widgets, Complete widget.1) :
    ∀ part ∈ bundleFile widgets, Code.Whole part := by
  have hbody : ∀ part ∈ widgets.map fun widget => Code.line (call (widget.1 ++ "Widget") []),
      Code.Whole part := by
    rw [List.forall_mem_map]
    intro widget hwidget
    exact whole_call ((hnames widget hwidget).append (.literal rfl)) (List.forall_mem_nil _)
  simp only [bundleFile, List.forall_mem_append, List.forall_mem_cons, List.forall_mem_flatMap]
  refine ⟨⟨whole_say (.literal rfl), whole_say (.literal rfl), trivial, whole_say (.literal rfl), ?_,
    trivial, ?_, List.forall_mem_nil _⟩, fun widget hwidget => ?_⟩
  · exact whole_enclose (.literal rfl)
      (List.forall_mem_singleton.2 (whole_enclose (.literal rfl) hbody))
  · exact whole_enclose (.literal rfl) (List.forall_mem_singleton.2 (whole_say (.literal rfl)))
  · have hname := hnames widget hwidget
    exact ⟨trivial, whole_provider hname widget.2, trivial, whole_registration hname widget.2,
      List.forall_mem_nil _⟩

/-- Widgets are registered under identifiers. -/
theorem complete_registered? {roots : List Root} :
    ∀ widget ∈ roots.filterMap registered?, Complete widget.1 := by
  intro widget hwidget
  obtain ⟨root, -, hsome⟩ := List.mem_filterMap.1 hwidget
  unfold registered? at hsome
  split at hsome
  · cases hsome
  · obtain ⟨found, -, rfl⟩ := Option.map_eq_some_iff.1 hsome
    exact complete_identifier root.rootId

end Widgetry.Ios
