import Widgetry.Android.Files
import Widgetry.Proofs.Android.Whole
import Widgetry.Proofs.Code.Tidy

/-!
The context of a screen. Main statement: the body of a screen's function uses the context, outside
of strings and comments, exactly when it declares it.
-/

namespace Widgetry.Android

open Code Code.Phrase

/-! ## Phrases without the context -/

/-- A phrase that does not use the context. -/
abbrev Silent (phrase : Phrase) : Prop := Omits quoting "context" phrase

/-- Several phrases that do not use the context. -/
def AllSilent (phrases : List Phrase) : Prop := ∀ phrase ∈ phrases, Silent phrase

@[simp] theorem allSilent_nil : AllSilent [] := List.forall_mem_nil _

@[simp] theorem allSilent_cons {phrase : Phrase} {rest : List Phrase} :
    AllSilent (phrase :: rest) ↔ Silent phrase ∧ AllSilent rest :=
  List.forall_mem_cons

@[simp] theorem allSilent_append {phrases others : List Phrase} :
    AllSilent (phrases ++ others) ↔ AllSilent phrases ∧ AllSilent others :=
  List.forall_mem_append

@[simp] theorem allSilent_partFor {α : Type} {value : Option α} {part : α → Phrase} :
    AllSilent (partFor value part) ↔ ∀ x, value = some x → Silent (part x) := by
  cases value <;> simp [partFor]

@[simp] theorem silent_call {callee : String} {arguments : List Phrase} :
    Silent (call callee arguments) ↔ Lacks "context" callee ∧ AllSilent arguments :=
  omits_call

@[simp] theorem silent_named {name : String} {value : Phrase} :
    Silent (named name value) ↔ Lacks "context" (name ++ " = ") ∧ Silent value :=
  omits_cons_word (by simp [isIdentifierChar])

/-- What has no letter c does not name the context. -/
theorem not_mem_namesIn_of_letter {text : String} (h : 'c' ∉ text.toList) :
    "context" ∉ namesIn text :=
  not_mem_namesIn (by simp) (by decide) h

theorem letter_not_mem_of_numeric {text : String}
    (h : ∀ c ∈ text.toList, Json.isNumeric c = true) : 'c' ∉ text.toList := fun hc =>
  absurd (h 'c' hc) (by decide)

theorem letter_not_mem_repr (n : Nat) : 'c' ∉ (Nat.repr n).toList :=
  letter_not_mem_of_numeric fun _ => Json.isNumeric_of_mem_repr

theorem letter_not_mem_display (x : Float) : 'c' ∉ (Double.display x).toList := by
  unfold Double.display
  split
  · simp
  · split <;> simp
  · rw [String.toList_append, List.mem_append, not_or]
    refine ⟨?_, letter_not_mem_of_numeric (Json.numeral_positional _).2⟩
    split <;> simp

theorem letter_not_mem_numeral (x : Float) : 'c' ∉ (Double.numeral x).toList := by
  have hinteger : ∀ n : Int, 'c' ∉ (toString n).toList := by
    intro n
    cases n with
    | ofNat n => exact letter_not_mem_repr n
    | negSucc n =>
      have hsigned : toString (Int.negSucc n) = "-" ++ Nat.repr (n + 1) := rfl
      rw [hsigned, String.toList_append, List.mem_append, not_or]
      exact ⟨by simp, letter_not_mem_repr (n + 1)⟩
  unfold Double.numeral
  split
  · simp
  · split <;> simp
  · split
    · exact hinteger _
    · exact letter_not_mem_display x

theorem silent_measure (x : Float) {unit : String} (hunit : Complete unit)
    (hletter : 'c' ∉ unit.toList) : Silent (measure x unit) := by
  refine ⟨tidy_measure.2 hunit, ?_⟩
  rw [names_measure]
  refine not_mem_namesIn_of_letter ?_
  rw [String.toList_append, List.mem_append, not_or]
  exact ⟨letter_not_mem_numeral _, hletter⟩

@[simp] theorem silent_dp (x : Float) : Silent (dp x) :=
  silent_measure x (.literal rfl) (by simp)

@[simp] theorem silent_sp (x : Float) : Silent (sp x) :=
  silent_measure x (.literal rfl) (by simp)

@[simp] theorem silent_float (x : Float) : Silent (float x) :=
  silent_measure x (.literal rfl) (by simp)

@[simp] theorem silent_colourLiteral (colour : Colour) : Silent (colourLiteral colour) := by
  have hcapital : ∀ n < 16, Hex.capital n ≠ 'c' := by decide
  have hchannel : ∀ channel : UInt8, 'c' ∉ Colour.channelDigits channel := by
    intro channel
    have hbound := channel.toNat_lt
    simp only [Colour.channelDigits, List.mem_cons, List.not_mem_nil, or_false, not_or]
    exact ⟨(hcapital _ (by omega)).symm, (hcapital _ (by omega)).symm⟩
  have hdigits : Lacks "context" ("0x" ++ colour.digits) := by
    refine ⟨.append (.literal rfl) (complete_digits colour), not_mem_namesIn_of_letter ?_⟩
    simp [Colour.digits, hchannel]
  simp +decide [colourLiteral, hdigits]

theorem silent_of_colour? {text : String} {phrase : Phrase} (h : colour? text = some phrase) :
    Silent phrase := by
  obtain ⟨colour, -, rfl⟩ := Option.map_eq_some_iff.1 h
  exact silent_colourLiteral colour

theorem silent_of_bind_colour? {text : Option String} {phrase : Phrase}
    (h : text.bind colour? = some phrase) : Silent phrase := by
  obtain ⟨colour, -, hcolour⟩ := Option.bind_eq_some_iff.1 h
  exact silent_of_colour? hcolour

/-! ## Boxes -/

theorem allSilent_paddingParts (padding : Padding) : AllSilent (paddingParts padding) := by
  cases padding with
  | uniform value => simp +decide [paddingParts]
  | edges horizontal vertical top bottom left right =>
    intro part hpart
    obtain ⟨edge, hmem, hsome⟩ := List.mem_filterMap.1 hpart
    obtain ⟨value, -, rfl⟩ := Option.map_eq_some_iff.1 hsome
    simp only [List.mem_cons, List.not_mem_nil, or_false] at hmem
    rcases hmem with rfl | rfl | rfl | rfl | rfl | rfl <;> simp +decide

theorem allSilent_boundsPart {name : String} (hname : Lacks "context" name)
    (least greatest : Option Float) : AllSilent (boundsPart name least greatest) := by
  unfold boundsPart
  split
  · exact allSilent_nil
  · simp +decide [hname]

theorem allSilent_sizeParts (size : Size) : AllSilent (sizeParts .screen size) := by
  simp +decide [sizeParts, allSilent_boundsPart]

@[simp] theorem silent_corner (radius : Float) : Silent (corner radius) := by
  simp +decide [corner]

theorem silent_shadowPart (cornerRadius : Option Float) (shadow : Shadow) :
    Silent (shadowPart cornerRadius shadow) := by
  simp +decide [shadowPart]

theorem silent_of_borderPart? {border : Border} {part : Phrase}
    (h : borderPart? border = some part) : Silent part := by
  obtain ⟨colour, hcolour, rfl⟩ := Option.map_eq_some_iff.1 h
  simp +decide [silent_of_colour? hcolour]

theorem silent_of_semanticsPart? {accessibility : Accessibility} {part : Phrase}
    (h : semanticsPart? accessibility = some part) : Silent part := by
  unfold semanticsPart? at h
  split at h
  · cases h
    simp +decide
  · obtain ⟨label, -, rfl⟩ := Option.map_eq_some_iff.1 h
    exact (omits_append (apart_braced _)).2 ⟨by simp +decide, by simp +decide⟩

theorem allSilent_boxParts (traits : Traits) (box : Box) :
    AllSilent (boxParts .screen traits box) := by
  have hsemantics : AllSilent (traits.accessibility.bind semanticsPart?).toList := by
    intro part hpart
    obtain ⟨accessibility, -, hsome⟩ := Option.bind_eq_some_iff.1 (Option.mem_toList.1 hpart)
    exact silent_of_semanticsPart? hsome
  have hborder : AllSilent (box.border.bind borderPart?).toList := by
    intro part hpart
    obtain ⟨border, -, hsome⟩ := Option.bind_eq_some_iff.1 (Option.mem_toList.1 hpart)
    exact silent_of_borderPart? hsome
  have hbackground : ∀ colour, box.background.bind colour? = some colour → Silent colour :=
    fun colour h => silent_of_bind_colour? h
  have hsize : AllSilent ((box.size.map (sizeParts .screen)).getD []) := by
    cases box.size with
    | none => exact allSilent_nil
    | some size => exact allSilent_sizeParts size
  have hpadding : AllSilent ((box.padding.map paddingParts).getD []) := by
    cases box.padding with
    | none => exact allSilent_nil
    | some padding => exact allSilent_paddingParts padding
  simpa +decide [boxParts, screenParts, hsemantics, hborder, hsize, hpadding, silent_shadowPart]
    using hbackground

/-! ## Arguments -/

theorem allSilent_containerArguments (layout : ContainerLayout) :
    AllSilent (containerArguments layout .screen) := by
  have hspread : ∀ {arrangement}, Lacks "context" arrangement →
      Silent (spread layout arrangement) := by
    intro arrangement h
    unfold spread
    split
    · simp +decide
    · simpa using h
  have hcolumn : Lacks "context" (columnArrangement layout.main) := by
    cases layout.main <;> decide +kernel
  have hrow : Lacks "context" (rowArrangement layout.main) := by
    cases layout.main <;> decide +kernel
  have hhorizontal : Lacks "context" (horizontalAlignment layout.cross .screen) := by
    cases layout.cross <;> decide +kernel
  have hvertical : Lacks "context" (verticalAlignment layout.cross .screen) := by
    cases layout.cross <;> decide +kernel
  rw [containerArguments]
  cases layout.axis with
  | vertical => simp +decide [hspread hcolumn, hhorizontal]
  | horizontal => simp +decide [hspread hrow, hvertical]

theorem lacks_screenWeight? {text weight : String} (h : screenWeight? text = some weight) :
    Lacks "context" weight := by
  unfold screenWeight? at h
  split at h <;> cases h <;> decide +kernel

theorem lacks_textAlign? {text align : String} (h : textAlign? text = some align) :
    Lacks "context" align := by
  unfold textAlign? at h
  split at h <;> cases h <;> decide +kernel

theorem allSilent_textArguments (style : Style) : AllSilent (textArguments style .screen) := by
  have hcolour : ∀ colour, textColour? style = some colour → Silent colour := fun colour h =>
    silent_of_bind_colour? h
  have hweight : ∀ weight, (style.text? "fontWeight").bind screenWeight? = some weight →
      Lacks "context" weight := by
    intro weight h
    obtain ⟨text, -, hweight⟩ := Option.bind_eq_some_iff.1 h
    exact lacks_screenWeight? hweight
  have halign : ∀ align, (style.text? "textAlign").bind textAlign? = some align →
      Lacks "context" align := by
    intro align h
    obtain ⟨text, -, halign⟩ := Option.bind_eq_some_iff.1 h
    exact lacks_textAlign? halign
  have hlines : ∀ lines : Float, Silent (measure lines "") := fun lines =>
    silent_measure lines .empty (by simp)
  have hitalic : AllSilent (if style.text? "fontStyle" = some "italic" then
      [named "fontStyle" (word "FontStyle.Italic")] else []) := by
    split <;> simp +decide
  have hparts := And.intro hcolour (And.intro hweight halign)
  simpa +decide [textArguments, fontSizePart, weightPart, maxLinesPart, alignPart, hitalic, hlines]
    using hparts

/-! ## Phrases with the context -/

/-- Tidy phrases, and whether one of them uses the context. -/
structure Tells (used : Bool) (phrases : List Phrase) : Prop where
  tidy : ∀ phrase ∈ phrases, Tidy quoting phrase
  mem_iff : (∃ phrase ∈ phrases, "context" ∈ names phrase) ↔ used = true

namespace Tells

variable {used others : Bool} {phrase : Phrase} {phrases rest : List Phrase}

theorem of_allSilent (h : AllSilent phrases) : Tells false phrases where
  tidy phrase hphrase := (h phrase hphrase).1
  mem_iff := by
    simp only [Bool.false_eq_true, iff_false, not_exists, not_and]
    exact fun phrase hphrase => (h phrase hphrase).2

theorem allSilent (h : Tells false phrases) : AllSilent phrases := fun phrase hphrase =>
  ⟨h.tidy phrase hphrase, fun hmem => Bool.false_ne_true (h.mem_iff.1 ⟨phrase, hphrase, hmem⟩)⟩

theorem append (h : Tells used phrases) (hrest : Tells others rest) :
    Tells (used || others) (phrases ++ rest) where
  tidy := List.forall_mem_append.2 ⟨h.tidy, hrest.tidy⟩
  mem_iff := by
    simp only [List.mem_append, or_and_right, exists_or, h.mem_iff, hrest.mem_iff, Bool.or_eq_true]

theorem append_silent (h : Tells used phrases) (hrest : AllSilent rest) :
    Tells used (phrases ++ rest) := by
  simpa using h.append (of_allSilent hrest)

theorem cons_silent (h : Tells used phrases) (hphrase : Silent phrase) :
    Tells used (phrase :: phrases) := by
  simpa using (of_allSilent (List.forall_mem_singleton.2 hphrase)).append h

theorem singleton_iff :
    Tells used [phrase] ↔ Tidy quoting phrase ∧ ("context" ∈ names phrase ↔ used = true) := by
  refine ⟨fun h => ⟨h.tidy phrase (List.mem_singleton_self phrase), ?_⟩, fun h => ⟨?_, ?_⟩⟩
  · rw [← h.mem_iff]
    simp
  · exact List.forall_mem_singleton.2 h.1
  · rw [← h.2]
    simp

theorem call {callee : String} (h : Tells used phrases) (hcallee : Lacks "context" callee) :
    Tells used [Phrase.call callee phrases] := by
  refine singleton_iff.2 ⟨tidy_call.2 ⟨hcallee.1, h.tidy⟩, ?_⟩
  rw [names_call, List.mem_append, List.mem_flatMap, h.mem_iff]
  exact or_iff_right hcallee.2

theorem named {name : String} (h : Tells used [phrase]) (hname : Lacks "context" (name ++ " = ")) :
    Tells used [Android.named name phrase] := by
  obtain ⟨htidy, hmem⟩ := singleton_iff.1 h
  refine singleton_iff.2 ⟨(tidy_cons_word (by simp [isIdentifierChar])).2 ⟨hname.1, htidy⟩, ?_⟩
  rw [Android.named, names_cons_word, List.mem_append, hmem]
  exact or_iff_right hname.2

theorem braced (h : Tells used [phrase]) : Tells used [Phrase.braced phrase] := by
  rwa [singleton_iff, tidy_braced, names_braced, ← singleton_iff]

/-- What follows a phrase at a distance and does not use the context. -/
theorem followed {next : Phrase} (h : Tells used [phrase]) (hnext : Silent next)
    (hapart : Apart quoting next) : Tells used [phrase ++ next] := by
  obtain ⟨htidy, hmem⟩ := singleton_iff.1 h
  refine singleton_iff.2 ⟨(tidy_append hapart).2 ⟨htidy, hnext.1⟩, ?_⟩
  rw [names_append, List.mem_append, hmem]
  exact or_iff_left hnext.2

end Tells

/-! ## Actions -/

theorem tells_note {text : String} (hstar : '*' ∉ text.toList)
    (hline : ∀ c ∈ text.toList, Lexer.isLineEnd c = false) : Tells false [[.note text]] :=
  .of_allSilent (List.forall_mem_singleton.2 (omits_note hstar hline))

theorem tells_screenAction (action : Action) :
    Tells (needsContext action) [screenAction action] := by
  unfold screenAction needsContext
  cases action.type with
  | deeplink =>
    cases action.deeplink? with
    | none => exact tells_note (by simp) (by simp [Lexer.isLineEnd])
    | some url =>
      refine Tells.singleton_iff.2 ⟨by simp +decide, iff_of_true ?_ rfl⟩
      rw [names_call, List.mem_append]
      exact .inl (by decide +kernel)
  | openApp =>
    have happ : Tidy quoting ((action.appId.map quoted).getD (word "context.packageName")) := by
      cases action.appId <;> simp +decide
    have hlet : Apart quoting (word "?.let ") := apart_word rfl []
    refine Tells.singleton_iff.2 ⟨?_, iff_of_true ?_ rfl⟩
    · rw [tidy_append (apart_braced _), tidy_append hlet]
      simp +decide [happ]
    · simp only [names_append, names_call, List.append_assoc, List.mem_append]
      exact .inl (by decide +kernel)
  | refresh => exact tells_note (by simp) (by simp [Lexer.isLineEnd])
  | custom => exact tells_note (by simp) (by simp [Lexer.isLineEnd])

theorem tells_clickable (action : Action) :
    Tells (needsContext action) [clickable .screen action] := by
  obtain ⟨htidy, hmem⟩ := Tells.singleton_iff.1 (tells_screenAction action).braced
  have hword : Silent (word "clickable ") := by simp +decide
  refine Tells.singleton_iff.2 ⟨(tidy_append (apart_braced _)).2 ⟨hword.1, htidy⟩, ?_⟩
  rw [clickable, names_append, List.mem_append, hmem]
  exact or_iff_right hword.2

/-! ## Chains -/

theorem Tells.partFor {α : Type} {value : Option α} {used : α → Bool} {part : α → Phrase}
    (h : ∀ x, Tells (used x) [part x]) : Tells (value.any used) (partFor value part) := by
  cases value with
  | none => exact .of_allSilent allSilent_nil
  | some x => exact h x

/-- The action in the chain of a node; a button has its own elsewhere. -/
def chainAction : Node → Option Action
  | .button .. => none
  | node => node.traits.action

theorem tells_ownParts (inContainer : Bool) (node : Node) :
    Tells ((chainAction node).any needsContext) (ownParts .screen inContainer node) := by
  cases node with
  | spacer traits flex =>
    have hflex : ∀ flex, Silent (spacerPart .screen inContainer flex) := by
      intro flex
      cases inContainer <;> simp +decide [spacerPart]
    exact (Tells.of_allSilent (allSilent_partFor.2 fun flex _ => hflex flex)).append
      (.partFor tells_clickable)
  | button => exact .of_allSilent allSilent_nil
  | view | text | image | stack | progressBar | list => exact .partFor tells_clickable

/-- Parts one after the other, each behind a dot. -/
def dotted (parts : List Phrase) : Phrase := parts.flatMap fun part => .word "." :: part

theorem apart_dotted (parts : List Phrase) : Apart quoting (dotted parts) := by
  cases parts with
  | nil => simp [Apart, dotted, phraseText]
  | cons part rest => exact apart_word rfl _

theorem tidy_dotted {parts : List Phrase} (h : ∀ part ∈ parts, Tidy quoting part) :
    Tidy quoting (dotted parts) := by
  induction parts with
  | nil => exact tidy_nil
  | cons part rest ih =>
    obtain ⟨hpart, hrest⟩ := List.forall_mem_cons.1 h
    rw [dotted, List.flatMap_cons]
    exact (tidy_append (apart_dotted rest)).2
      ⟨(tidy_cons_word rfl).2 ⟨.literal rfl, hpart⟩, ih hrest⟩

theorem names_dotted (parts : List Phrase) : names (dotted parts) = parts.flatMap names := by
  have hdot : namesIn "." = [] := by decide +kernel
  simp only [dotted, names_flatMap, names_cons_word, hdot, List.nil_append]

theorem chain_eq (inContainer : Bool) (node : Node) :
    chain .screen inContainer node = word "Modifier"
      ++ dotted (ownParts .screen inContainer node ++ boxParts .screen node.traits node.box) := by
  unfold chain chain?
  split
  · rename_i hparts
    rw [hparts]
    rfl
  · rfl

theorem tells_chain (inContainer : Bool) (node : Node) :
    Tells ((chainAction node).any needsContext) [chain .screen inContainer node] := by
  have hparts := (tells_ownParts inContainer node).append_silent
    (allSilent_boxParts node.traits node.box)
  have hmodifier : Silent (word "Modifier") := by simp +decide
  rw [Tells.singleton_iff, chain_eq, tidy_append (apart_dotted _), names_append, names_dotted,
    List.mem_append, List.mem_flatMap, hparts.mem_iff]
  exact ⟨⟨hmodifier.1, tidy_dotted hparts.tidy⟩, or_iff_right hmodifier.2⟩

theorem lacks_modifier : Lacks "context" ("modifier" ++ " = ") := by decide +kernel

theorem tells_chainArgument (inContainer : Bool) (node : Node) :
    Tells ((chainAction node).any needsContext) (chainArgument .screen inContainer node) := by
  have hchain := tells_chain inContainer node
  unfold chain at hchain
  unfold chainArgument
  cases hsome : chain? .screen inContainer node with
  | some phrase =>
    rw [hsome] at hchain
    exact hchain.named lacks_modifier
  | none =>
    -- Without a chain there is nothing that could use the context.
    rw [hsome] at hchain
    have hmodifier : Silent (word Surface.screen.modifier) := omits_word.2 (by decide +kernel)
    have hunused : (chainAction node).any needsContext = false := by
      rw [Bool.eq_false_iff]
      exact (Tells.singleton_iff.1 hchain).2.not.1 hmodifier.2
    rw [hunused]
    exact .of_allSilent allSilent_nil

/-! ## Nodes -/

/-- Whether some code uses the context. -/
def Uses (used : Bool) (code : List Code) : Prop :=
  "context" ∈ namesOfAll quoting code ↔ used = true

theorem Tells.line {used : Bool} {phrase : Phrase} (h : Tells used [phrase]) :
    Uses used [.line phrase] := by
  obtain ⟨htidy, hmem⟩ := singleton_iff.1 h
  rw [Uses, namesOfAll, names_line htidy, namesOfAll, List.append_nil, hmem]

theorem Tells.braces {used inner : Bool} {head : Phrase} {body : List Code} (h : Tells used [head])
    (hbody : Uses inner body) : Uses (used || inner) [Code.braces head body] := by
  obtain ⟨htidy, hmem⟩ := singleton_iff.1 h
  rw [Uses, namesOfAll, names_braces htidy, namesOfAll, List.append_nil, List.mem_append,
    Bool.or_eq_true]
  exact or_congr hmem hbody

theorem silent_description (traits : Traits) : Silent (description traits) := by
  rw [description]
  cases traits.accessibility.bind Accessibility.label <;> simp +decide

theorem uses_button (traits : Traits) (label : String) (variant : Option ButtonVariant)
    {modifier : List Phrase} (hmodifier : AllSilent modifier) :
    Uses (traits.action.any needsContext) [button .screen traits label variant modifier] := by
  have htap : Tells (traits.action.any needsContext)
      [(traits.action.map screenAction).getD []] := by
    cases traits.action with
    | none => exact .of_allSilent (by simp)
    | some action => exact tells_screenAction action
  have hclick := htap.braced.named (by decide +kernel : Lacks "context" ("onClick" ++ " = "))
  have hname : Lacks "context" (buttonName variant) := by
    rcases variant with _ | (_ | _ | _) <;> decide +kernel
  have hblank : Silent (word " ") := by simp +decide
  have hlabel : Silent (braced (call "Text" [quoted label])) := by simp +decide
  have hcall := (hclick.append_silent hmodifier).call hname
  exact ((hcall.followed hblank (apart_word rfl [])).followed hlabel (apart_braced _)).line

theorem uses_image (traits : Traits) (uri : String) (resizeMode : Option ResizeMode)
    {used : Bool} {modifier : List Phrase} (hmodifier : Tells used modifier) :
    Uses used (image .screen traits uri resizeMode modifier) := by
  have hscale : AllSilent (partFor resizeMode fun mode =>
      named "contentScale" (word (contentScale mode))) := by
    refine allSilent_partFor.2 fun mode _ => ?_
    cases mode <;> simp +decide [contentScale]
  have hmodel : Silent (named "model" (quoted uri)) := by simp +decide
  have hdescription : Silent (named "contentDescription" (description traits)) := by
    simp +decide [silent_description]
  exact ((((hmodifier.append_silent hscale).cons_silent hdescription).cons_silent hmodel).call
    (by decide +kernel)).line

theorem silent_progressArgument (progress : Float) :
    Silent (progressArgument .screen progress) := by
  simp +decide [progressArgument]

theorem lacks_lazyName (horizontal : Option Bool) :
    Lacks "context" (lazyName .screen horizontal) := by
  rcases horizontal with _ | (_ | _) <;> decide +kernel

theorem uses_nil : Uses false [] := by
  simp [Uses, namesOfAll]

theorem uses_remark (text : String) : Uses false [.remark text] := uses_nil

mutual

/-- The calls that show a tree use the context exactly when one of its actions needs it. -/
theorem uses_composable (inContainer : Bool) : (node : Node) →
    Uses (usesContext node) (composable .screen inContainer node)
  | .view traits [] => by
    have hmodifier := (tells_chain inContainer (.view traits [])).named lacks_modifier
    have hempty : Silent (word " \x7b\x7d") := by simp +decide
    rw [composable, usesContext, anyUsesContext, Bool.or_false]
    exact ((hmodifier.call (by decide +kernel)).followed hempty (apart_word rfl [])).line
  | .view traits (child :: rest) => by
    have hchain := tells_chainArgument inContainer (.view traits (child :: rest))
    have harguments := hchain.append_silent
      (allSilent_containerArguments (traits.layout .vertical))
    rw [composable, usesContext]
    · exact (harguments.call (by decide +kernel)).braces (uses_composables (child :: rest))
    · exact List.cons_ne_nil child rest
  | .stack traits axis children => by
    have hchain := tells_chainArgument inContainer (.stack traits axis children)
    have harguments := hchain.append_silent (allSilent_containerArguments (traits.layout axis))
    have hname : Lacks "context" (containerName axis) := by
      cases axis <;> decide +kernel
    rw [composable, usesContext]
    exact (harguments.call hname).braces (uses_composables children)
  | .text traits content => by
    have hchain := tells_chainArgument inContainer (.text traits content)
    have hstyle : AllSilent
        ((traits.style.map fun style => textArguments style .screen).getD []) := by
      cases traits.style with
      | none => exact allSilent_nil
      | some style => exact allSilent_textArguments style
    have htext : Silent (named "text" (quoted (transformed traits.style content.display))) := by
      simp +decide
    rw [composable]
    exact (((hchain.append_silent hstyle).cons_silent htext).call (by decide +kernel)).line
  | .button traits label variant size => by
    have hchain := tells_chainArgument inContainer (.button traits label variant size)
    rw [composable]
    exact uses_button traits label variant hchain.allSilent
  | .image traits uri resizeMode placeholder => by
    have hchain := tells_chainArgument inContainer (.image traits uri resizeMode placeholder)
    rw [composable]
    exact uses_image traits uri resizeMode hchain
  | .spacer traits flex => by
    have hmodifier := (tells_chain inContainer (.spacer traits flex)).named lacks_modifier
    rw [composable]
    exact (hmodifier.call (by decide +kernel)).line
  | .progressBar traits progress indeterminate => by
    have hprogress : AllSilent
        (if indeterminate = some true then [] else [progressArgument .screen progress]) := by
      split
      · exact allSilent_nil
      · exact List.forall_mem_singleton.2 (silent_progressArgument progress)
    have harguments := (Tells.of_allSilent hprogress).append
      (tells_chainArgument inContainer (.progressBar traits progress indeterminate))
    rw [composable]
    exact (harguments.call (by decide +kernel)).line
  | .list traits items renderItem horizontal => by
    have hchain := tells_chainArgument inContainer (.list traits items renderItem horizontal)
    have hlist := (hchain.call (lacks_lazyName horizontal)).braces
      (uses_remark s!"renderItem: {renderItem} ({items.length} items)")
    rw [Bool.or_false] at hlist
    rw [composable]
    exact hlist

theorem uses_composables : (nodes : List Node) →
    Uses (anyUsesContext nodes) (composables .screen nodes)
  | [] => uses_nil
  | node :: rest => by
    rw [composables, Uses, namesOfAll_append, List.mem_append, anyUsesContext, Bool.or_eq_true]
    exact or_congr (uses_composable true node) (uses_composables rest)

end

/-! ## The declaration -/

def contextDeclaration : String := "val context = LocalContext.current"

/-- A line with another first letter is not the declaration. -/
theorem ne_contextDeclaration {start : String}
    (h : start.toList.head?.any (fun c => c != 'v') = true) (rest : String) :
    start ++ rest ≠ contextDeclaration := by
  obtain ⟨c, hhead, hc⟩ := (Option.any_eq_true _ _).1 h
  intro heq
  have hfirst : (start ++ rest).toList.head? = some 'v' := by
    rw [heq]
    rfl
  rw [String.toList_append, List.head?_append, hhead, Option.some_or, Option.some.injEq] at hfirst
  simp [hfirst] at hc

section Lines

variable {name : String} (hname : name.toList.head?.any (fun c => c != 'v') = true) (level : Nat)

include hname

theorem undeclared_line (rest : Phrase) :
    ∀ line ∈ linesOfAll quoting level [.line (.word name :: rest)],
      line.text ≠ contextDeclaration :=
  List.forall_mem_singleton.2 (ne_contextDeclaration hname (phraseText quoting rest))

theorem undeclared_braces (arguments : List Phrase) {body : List Code}
    (hbody : ∀ line ∈ linesOfAll quoting (level + 1) body, line.text ≠ contextDeclaration) :
    ∀ line ∈ linesOfAll quoting level [braces (call name arguments) body],
      line.text ≠ contextDeclaration := by
  have hclose : "\x7d" ≠ contextDeclaration := by decide +kernel
  have hlines : linesOfAll quoting level [braces (call name arguments) body]
      = ⟨level, phraseText quoting (call name arguments ++ word " ") ++ "\x7b" ++ ""⟩
        :: (linesOfAll quoting (level + 1) body ++ [⟨level, "\x7d"⟩]) := List.append_nil _
  have hopen : phraseText quoting (call name arguments ++ word " ") ++ "\x7b" ++ ""
      ≠ contextDeclaration := by
    rw [call, List.cons_append, phraseText, fragmentText, String.append_assoc, String.append_assoc]
    exact ne_contextDeclaration hname _
  rw [hlines, List.forall_mem_cons, List.forall_mem_append]
  exact ⟨hopen, hbody, List.forall_mem_singleton.2 hclose⟩

end Lines

mutual

theorem undeclared_composable (inContainer : Bool) (level : Nat) : (node : Node) →
    ∀ line ∈ linesOfAll quoting level (composable .screen inContainer node),
      line.text ≠ contextDeclaration
  | .view traits [] => by
    rw [composable]
    exact undeclared_line rfl level _
  | .view traits (child :: rest) => by
    rw [composable]
    · exact undeclared_braces rfl level _ (undeclared_composables (level + 1) (child :: rest))
    · exact List.cons_ne_nil child rest
  | .stack traits axis children => by
    rw [composable]
    exact undeclared_braces (by cases axis <;> rfl) level _
      (undeclared_composables (level + 1) children)
  | .text traits content => by
    rw [composable]
    exact undeclared_line rfl level _
  | .button traits label variant size => by
    rw [composable]
    exact undeclared_line (by rcases variant with _ | (_ | _ | _) <;> rfl) level _
  | .image traits uri resizeMode placeholder => by
    rw [composable]
    exact undeclared_line rfl level _
  | .spacer traits flex => by
    rw [composable]
    exact undeclared_line rfl level _
  | .progressBar traits progress indeterminate => by
    rw [composable]
    exact undeclared_line rfl level _
  | .list traits items renderItem horizontal => by
    rw [composable]
    refine undeclared_braces (by rcases horizontal with _ | (_ | _) <;> rfl) level _ ?_
    exact List.forall_mem_singleton.2 (ne_contextDeclaration rfl _)

theorem undeclared_composables (level : Nat) : (nodes : List Node) →
    ∀ line ∈ linesOfAll quoting level (composables .screen nodes),
      line.text ≠ contextDeclaration
  | [] => List.forall_mem_nil _
  | node :: rest => by
    rw [composables, linesOfAll_append, List.forall_mem_append]
    exact ⟨undeclared_composable true level node, undeclared_composables level rest⟩

end

/-! ## Screens -/

/-- The line of the declaration, in a function that has it. -/
def declarationLines (tree : Node) : List Line :=
  if usesContext tree then [⟨1, contextDeclaration⟩] else []

theorem linesOfAll_screenFunction (name : String) (tree : Node) :
    linesOfAll quoting 0 (screenFunction name tree)
      = ⟨0, "@Composable"⟩ :: ⟨0, "fun " ++ name ++ "() \x7b"⟩
        :: (declarationLines tree ++ linesOfAll quoting 1 (composable .screen false tree)
          ++ [⟨0, "\x7d"⟩]) := by
  have hdeclaration : linesOfAll quoting 1
      (if usesContext tree then [say "val context = LocalContext.current"] else [])
      = declarationLines tree := by
    unfold declarationLines
    split <;> rfl
  have hhead : s!"fun {name}()" = "fun " ++ name ++ "()" := rfl
  rw [← hdeclaration, ← linesOfAll_append, screenFunction, hhead]
  simp [linesOfAll, lines, linesOfSections, enclose, braces, say, word, phraseText, fragmentText,
    Bracket.opening, Bracket.closing, String.append_assoc]

/-- Without its declaration, the body of a screen's function is what shows the tree. -/
theorem filter_screenBody (tree : Node) :
    (declarationLines tree ++ linesOfAll quoting 1 (composable .screen false tree)).filter
        (fun line => line.text ≠ contextDeclaration)
      = linesOfAll quoting 1 (composable .screen false tree) := by
  have hdeclaration : (declarationLines tree).filter (fun line => line.text ≠ contextDeclaration)
      = [] := by
    unfold declarationLines
    split <;> simp
  have hshown : (linesOfAll quoting 1 (composable .screen false tree)).filter
      (fun line => line.text ≠ contextDeclaration)
      = linesOfAll quoting 1 (composable .screen false tree) := by
    refine List.filter_eq_self.2 fun line hline => ?_
    simpa using undeclared_composable false 1 tree line hline
  rw [List.filter_append, hdeclaration, hshown, List.nil_append]

theorem exists_declaration_iff (tree : Node) :
    (∃ line ∈ declarationLines tree ++ linesOfAll quoting 1 (composable .screen false tree),
      line.text = contextDeclaration) ↔ usesContext tree = true := by
  constructor
  · rintro ⟨line, hline, htext⟩
    rcases List.mem_append.1 hline with hline | hline
    · by_contra hunused
      simp [declarationLines, hunused] at hline
    · exact absurd htext (undeclared_composable false 1 tree line hline)
  · intro hused
    refine ⟨⟨1, contextDeclaration⟩, List.mem_append_left _ ?_, rfl⟩
    simp [declarationLines, hused]

theorem regionFunction_within {activity : LiveActivity} {region : String × Option Node}
    (h : region ∈ namedRegions activity.regions) (package : String) :
    regionFunction (identifier activity.activityType) region
      <:+: activityFile package activity := by
  obtain ⟨before, after, hregions⟩ := List.append_of_mem h
  have hregion : regionFunction (identifier activity.activityType) region
      <:+: (namedRegions activity.regions).flatMap
        (regionFunction (identifier activity.activityType)) := by
    rw [hregions, List.flatMap_append, List.flatMap_cons, ← List.append_assoc]
    exact List.infix_append _ _ _
  exact hregion.trans (List.suffix_append _ _).isInfix

/-- The body of a screen's function uses the context, other than in its declaration, exactly when
an action of the tree needs it, and exactly then it has the line of the declaration. These functions
are in the files of screens and, one for each region, in those of activities. -/
theorem context_declared_iff_used :
    (∀ (name : String) (tree : Node), ∃ body : List Line,
      linesOfAll quoting 0 (screenFunction name tree)
        = ⟨0, "@Composable"⟩ :: ⟨0, "fun " ++ name ++ "() \x7b"⟩ :: (body ++ [⟨0, "\x7d"⟩]) ∧
      ("context" ∈ namesFrom Lexer.start
          (characters (body.filter fun line => line.text ≠ contextDeclaration))
        ↔ usesContext tree = true) ∧
      ((∃ line ∈ body, line.text = contextDeclaration) ↔ usesContext tree = true)) ∧
    (∀ (package : String) (root : Root),
      screenFunction (identifier root.rootId) root.tree <:+ screenFile package root) ∧
    ∀ (package : String) (activity : LiveActivity) (ending : String) (node : Node),
      (ending, some node) ∈ namedRegions activity.regions →
        screenFunction (identifier activity.activityType ++ ending) node
          <:+: activityFile package activity := by
  refine ⟨fun name tree => ?_, fun package root => ?_, fun package activity ending node h => ?_⟩
  · have hwhole := (allWhole_iff _).2 (whole_composable .screen false tree)
    have hnames : namesFrom Lexer.start
        (characters (linesOfAll quoting 1 (composable .screen false tree)))
        = namesOfAll quoting (composable .screen false tree) := namesFrom_linesOfAll [] 1 _ hwhole
    refine ⟨_, linesOfAll_screenFunction name tree, ?_, exists_declaration_iff tree⟩
    rw [filter_screenBody, hnames]
    exact uses_composable false tree
  · rw [screenFile]
    exact (List.suffix_cons _ _).trans (List.suffix_append _ _)
  · exact (List.suffix_cons _ _).isInfix.trans (regionFunction_within h package)

/-- A link on the lock screen of a ride: the function of this region declares the context. -/
theorem context_declared_link :
    let link : Node :=
      .text { action := some { type := .deeplink, url := some "app://ride" } } (.string "Ride")
    let activity : LiveActivity := { activityType := "Ride", regions := { lockScreen := some link } }
    ("LockScreen", some link) ∈ namedRegions activity.regions ∧ usesContext link = true ∧
      screenFunction "RideLockScreen" link <:+: activityFile "app" activity ∧
      ∃ line ∈ linesOfAll quoting 0 (screenFunction "RideLockScreen" link),
        line.text = contextDeclaration := by
  intro link activity
  obtain ⟨hbody, -, hregion⟩ := context_declared_iff_used
  have hlink : ("LockScreen", some link) ∈ namedRegions activity.regions := List.mem_cons_self
  have huses : usesContext link = true := by decide
  have hname : identifier activity.activityType ++ "LockScreen" = "RideLockScreen" := by decide
  obtain ⟨body, hlines, -, hdeclared⟩ := hbody "RideLockScreen" link
  obtain ⟨line, hline, htext⟩ := hdeclared.2 huses
  refine ⟨hlink, huses, hname ▸ hregion "app" activity "LockScreen" link hlink, line, ?_, htext⟩
  rw [hlines]
  exact .tail _ (.tail _ (List.mem_append_left _ hline))

end Widgetry.Android
