import Widgetry.Markup.Given
import Widgetry.Proofs.Style.Normalizing

/-!
Several styles for one element. They are written over each other entry by entry before they are
normalized, so a key that has two spellings is decided by the places of both. Main statement: for
every other key the right-most style that has it wins; for the parts of an offset the spelling wins that
comes up last for the first time, and the right-most style loses where the other spelling comes back.
-/

namespace Widgetry

namespace Style

variable {key : String}

/-! ## Entries -/

theorem get?_normalize_append (front back : Bag Literal) (key : String) :
    (normalize (front ++ back)).get? key
      = ((normalize back).get? key).or ((normalize front).get? key) := by
  cases hkey : Bucket.ofKey? key with
  | none => simp only [get?_of_unknown _ hkey, Option.or_none]
  | some bucket =>
    have hget : ∀ bag : Bag Literal,
        (normalize bag).get? key = Bag.find? key (scalars bag).reverse := by
      intro bag
      rw [normalize_eq, get?_arranged, get?_insertAll (Bucket.ofKey?_eq_some_iff.1 hkey), get?_empty,
        Option.or_none]
    rw [hget, hget, hget, scalars_append, List.reverse_append, Bag.find?_append]

theorem get?_normalize_singleton_iff {bucket : Bucket} (h : key ∈ bucket.keys.map Prod.fst)
    {entry : String × Literal} {value : StyleValue} :
    (normalize [entry]).get? key = some value ↔ Supplies entry key value := by
  rw [get?_normalize_iff h, ← List.nil_append [entry], lastSupplied_concat]
  refine ⟨fun hlast => hlast.elim id ?_, .inl⟩
  rintro ⟨-, front, entry, rest, heq, -⟩
  simp at heq

theorem supplies_of_get?_normalize {entry : String × Literal} {value : StyleValue}
    (h : (normalize [entry]).get? key = some value) : Supplies entry key value := by
  cases hkey : Bucket.ofKey? key with
  | none =>
    rw [get?_of_unknown _ hkey] at h
    cases h
  | some bucket => exact (get?_normalize_singleton_iff (Bucket.ofKey?_eq_some_iff.1 hkey)).1 h

/-- The value of the right-most style that has the key. -/
def rightmost? (styles : List (Bag Literal)) (key : String) : Option StyleValue :=
  styles.reverse.findSome? fun style => (normalize style).get? key

theorem rightmost?_eq (styles : List (Bag Literal)) (key : String) :
    rightmost? styles key = (normalize styles.flatten).get? key := by
  induction styles with
  | nil => exact (get?_empty key).symm
  | cons style rest ih =>
    rw [rightmost?, List.reverse_cons, List.findSome?_append, ← rightmost?, ih, List.flatten_cons,
      get?_normalize_append]
    simp

/-! ## Spellings -/

/-- What the first entry of a name gives for a key. -/
def entryOf? (bag : Bag Literal) (key name : String) : Option StyleValue :=
  (Bag.find? name bag).bind fun value => (normalize [(name, value)]).get? key

/-- What the last entry of a name gives for a key. -/
def lastOf? (entries : Bag Literal) (key name : String) : Option StyleValue :=
  entryOf? entries.reverse key name

theorem entryOf?_ofPairs (entries : Bag Literal) (key name : String) :
    entryOf? (Bag.ofPairs entries) key name = lastOf? entries key name := by
  rw [lastOf?, entryOf?, entryOf?, Bag.find?_ofPairs]

theorem entryOf?_cons_self (name : String) (value : Literal) (rest : Bag Literal) :
    entryOf? ((name, value) :: rest) key name = (normalize [(name, value)]).get? key := by
  simp [entryOf?, Bag.find?]

theorem entryOf?_cons_of_ne {name other : String} (h : name ≠ other) (value : Literal)
    (rest : Bag Literal) : entryOf? ((name, value) :: rest) key other = entryOf? rest key other := by
  simp [entryOf?, Bag.find?, h]

theorem entryOf?_of_not_mem {name : String} {bag : Bag Literal} (h : name ∉ bag.names) :
    entryOf? bag key name = none := by
  rw [entryOf?, Bag.find?_eq_none_iff.2 h, Option.bind_none]

/-- One of two names. -/
def isEither (one two name : String) : Bool := name = one || name = two

theorem isEither_left (one two : String) : isEither one two one = true := by simp [isEither]

theorem isEither_right (one two : String) : isEither one two two = true := by simp [isEither]

theorem eq_or_eq_of_isEither {one two name : String} (h : isEither one two name = true) :
    name = one ∨ name = two := by simpa [isEither] using h

/-- Only these two names give anything for the key. -/
def SpelledBy (key one two : String) : Prop :=
  ∀ name value, isEither one two name = false → (normalize [(name, value)]).get? key = none

variable {one two : String}

/-- In a bag without repeated names the spelling that stands last counts. -/
theorem SpelledBy.get?_normalize (spelled : SpelledBy key one two) {bag : Bag Literal}
    (distinct : bag.Distinct) :
    (normalize bag).get? key
      = if bag.names.find? (isEither one two) = some one then
          (entryOf? bag key two).or (entryOf? bag key one)
        else (entryOf? bag key one).or (entryOf? bag key two) := by
  induction bag with
  | nil => exact get?_empty key
  | cons entry rest ih =>
    obtain ⟨name, value⟩ := entry
    obtain ⟨hfresh, hrest⟩ := List.nodup_cons.1 distinct
    have hnames : Bag.names ((name, value) :: rest) = name :: Bag.names rest := rfl
    rw [← List.singleton_append, get?_normalize_append, ih hrest, List.singleton_append, hnames]
    by_cases hone : name = one
    · subst hone
      rw [entryOf?_of_not_mem hfresh, Option.none_or, Option.or_none, ite_self,
        List.find?_cons_of_pos (by simp [isEither]), if_pos rfl, entryOf?_cons_self]
      by_cases htwo : name = two
      · subst htwo
        rw [entryOf?_of_not_mem hfresh, entryOf?_cons_self, Option.none_or, Option.or_self]
      · rw [entryOf?_cons_of_ne htwo]
    · by_cases htwo : name = two
      · subst htwo
        rw [entryOf?_of_not_mem hfresh, Option.none_or, Option.or_none, ite_self,
          List.find?_cons_of_pos (by simp [isEither]), if_neg (by simpa using hone),
          entryOf?_cons_self, entryOf?_cons_of_ne hone]
      · have hneither : isEither one two name = false := by simp [isEither, hone, htwo]
        rw [spelled name value hneither, Option.or_none, List.find?_cons_of_neg (by simp [hneither]),
          entryOf?_cons_of_ne hone, entryOf?_cons_of_ne htwo]

/-- Where every entry of a spelling gives something, the last of them counts. -/
theorem SpelledBy.get?_normalize_last (spelled : SpelledBy key one two) {entries : Bag Literal}
    (full : ∀ entry ∈ entries, isEither one two entry.1 = true →
      ((normalize [entry]).get? key).isSome = true) :
    (normalize entries).get? key
      = (entries.names.reverse.find? (isEither one two)).bind (lastOf? entries key) := by
  induction entries using List.reverseRecOn with
  | nil => exact get?_empty key
  | append_singleton entries entry ih =>
    obtain ⟨name, value⟩ := entry
    obtain ⟨hfull, hlast⟩ := List.forall_mem_append.1 full
    have hnames : (Bag.names (entries ++ [(name, value)])).reverse
        = name :: (Bag.names entries).reverse := by simp [Bag.names]
    rw [get?_normalize_append, hnames, ih hfull]
    by_cases heither : isEither one two name = true
    · obtain ⟨found, hfound⟩ :=
        Option.isSome_iff_exists.1 (hlast _ (List.mem_singleton_self _) heither)
      rw [List.find?_cons_of_pos heither, Option.bind_some, lastOf?, List.reverse_concat,
        entryOf?_cons_self, hfound, Option.some_or]
    · rw [spelled name value (by simpa using heither), Option.none_or,
        List.find?_cons_of_neg heither]
      refine Option.bind_congr fun other hother => ?_
      have hne : name ≠ other := by
        rintro rfl
        exact heither (List.find?_some hother)
      rw [lastOf?, lastOf?, List.reverse_concat, entryOf?_cons_of_ne hne]

/-! ## Plain styles -/

/-- An object with a scalar width and a scalar height. -/
def IsOffset (literal : Literal) : Prop :=
  ∃ (offset : Bag Literal) (width height : StyleValue), literal = .object offset ∧
    Bag.find? "width" offset = some width.toLiteral ∧
    Bag.find? "height" offset = some height.toLiteral

/-- All values are scalars, except that an offset may be an object. -/
def Plain (style : Bag Literal) : Prop :=
  ∀ entry ∈ style, (∃ value : StyleValue, entry.2 = value.toLiteral) ∨
    entry.1 = "shadowOffset" ∧ IsOffset entry.2

/-- The keys of the parts of an offset. -/
def offsetKeys : List String := ["shadowOffsetX", "shadowOffsetY"]

theorem spelledBy_self (h : key ∉ offsetKeys) : SpelledBy key key key := by
  intro name value hneither
  refine Option.eq_none_iff_forall_ne_some.2 fun found hfound => ?_
  cases supplies_of_get?_normalize hfound with
  | scalar _ _ => simp [isEither] at hneither
  | width _ => exact h (by simp [offsetKeys])
  | height _ => exact h (by simp [offsetKeys])

theorem spelledBy_offset (key : String) : SpelledBy key "shadowOffset" key := by
  intro name value hneither
  refine Option.eq_none_iff_forall_ne_some.2 fun found hfound => ?_
  cases supplies_of_get?_normalize hfound with
  | scalar _ _ => simp [isEither] at hneither
  | width _ => simp [isEither] at hneither
  | height _ => simp [isEither] at hneither

theorem isSome_get?_scalar {bucket : Bucket} (h : key ∈ bucket.keys.map Prod.fst)
    (value : StyleValue) : ((normalize [(key, value.toLiteral)]).get? key).isSome = true := by
  have hkey : key ≠ "shadowOffset" := by
    rintro rfl
    rw [← Bucket.ofKey?_eq_some_iff] at h
    cases h
  exact Option.isSome_iff_exists.2 ⟨value, (get?_normalize_singleton_iff h).2 (.scalar hkey rfl)⟩

theorem exists_bucket_of_offsetKeys (h : key ∈ offsetKeys) :
    ∃ bucket : Bucket, key ∈ bucket.keys.map Prod.fst :=
  ⟨.shadows, (by decide : ∀ key ∈ offsetKeys, key ∈ Bucket.shadows.keys.map Prod.fst) key h⟩

theorem isSome_get?_offset (h : key ∈ offsetKeys) {literal : Literal} (offset : IsOffset literal) :
    ((normalize [("shadowOffset", literal)]).get? key).isSome = true := by
  obtain ⟨bucket, hbucket⟩ := exists_bucket_of_offsetKeys h
  obtain ⟨members, width, height, rfl, hwidth, hheight⟩ := offset
  refine Option.isSome_iff_exists.2 ?_
  simp only [get?_normalize_singleton_iff hbucket]
  simp only [offsetKeys, List.mem_cons, List.not_mem_nil, or_false] at h
  rcases h with rfl | rfl
  · exact ⟨width, .width hwidth⟩
  · exact ⟨height, .height hheight⟩

/-- In a plain style the last entry of a key counts, unless the key is that of a part of an offset. -/
theorem Plain.get?_normalize {entries : Bag Literal} (plain : Plain entries) (h : key ∉ offsetKeys) :
    (normalize entries).get? key = lastOf? entries key key := by
  cases hkey : Bucket.ofKey? key with
  | none =>
    rw [get?_of_unknown _ hkey, lastOf?, entryOf?]
    simp only [get?_of_unknown _ hkey, Option.bind_fun_none]
  | some bucket =>
    have hbucket := Bucket.ofKey?_eq_some_iff.1 hkey
    have full : ∀ entry ∈ entries, isEither key key entry.1 = true →
        ((normalize [entry]).get? key).isSome = true := by
      rintro ⟨name, literal⟩ hmem heither
      obtain rfl : name = key := by simpa [isEither] using heither
      rcases plain _ hmem with ⟨value, rfl⟩ | ⟨rfl, -⟩
      · exact isSome_get?_scalar hbucket value
      · cases hkey
    rw [(spelledBy_self h).get?_normalize_last full]
    cases hfind : entries.names.reverse.find? (isEither key key) with
    | none =>
      have hmem : key ∉ Bag.names entries.reverse := by
        intro hmem
        refine List.find?_eq_none.1 hfind key ?_ (by simp [isEither])
        rwa [Bag.names, List.map_reverse] at hmem
      rw [Option.bind_none, lastOf?, entryOf?_of_not_mem hmem]
    | some name =>
      obtain rfl : name = key := by simpa [isEither] using List.find?_some hfind
      rfl

theorem get?_ofPairs_of_spelledBy_self (spelled : SpelledBy key key key) (entries : Bag Literal) :
    (normalize (Bag.ofPairs entries)).get? key = lastOf? entries key key := by
  rw [spelled.get?_normalize (Bag.distinct_ofPairs entries), Option.or_self, ite_self,
    entryOf?_ofPairs]

/-! ## Spellings that come back -/

/-- One of two names comes back: it is used first and last, and the other one is used too. -/
def ComesBack (entries : Bag Literal) (one two : String) : Prop :=
  one ∈ entries.names ∧ two ∈ entries.names ∧
    entries.names.find? (isEither one two) = entries.names.reverse.find? (isEither one two)

theorem SpelledBy.get?_ofPairs (spelled : SpelledBy key one two) (entries : Bag Literal) :
    (normalize (Bag.ofPairs entries)).get? key
      = if entries.names.find? (isEither one two) = some one then
          (lastOf? entries key two).or (lastOf? entries key one)
        else (lastOf? entries key one).or (lastOf? entries key two) := by
  rw [spelled.get?_normalize (Bag.distinct_ofPairs entries), Bag.find?_names_ofPairs,
    entryOf?_ofPairs, entryOf?_ofPairs]

theorem lastOf?_of_not_mem {entries : Bag Literal} {name : String} (h : name ∉ entries.names) :
    lastOf? entries key name = none := by
  refine entryOf?_of_not_mem fun hmem => h ?_
  rwa [Bag.names, List.map_reverse, List.mem_reverse] at hmem

theorem exists_lastOf? {entries : Bag Literal} {name : String} (h : name ∈ entries.names)
    (full : ∀ entry ∈ entries, entry.1 = name → ((normalize [entry]).get? key).isSome = true) :
    ∃ value, lastOf? entries key name = some value := by
  have hmem : name ∈ Bag.names entries.reverse := by
    rwa [Bag.names, List.map_reverse, List.mem_reverse]
  obtain ⟨literal, hliteral⟩ := Option.ne_none_iff_exists'.1
    fun hnone => Bag.find?_eq_none_iff.1 hnone hmem
  have hentry : (name, literal) ∈ entries := List.mem_reverse.1 (Bag.mem_of_find? hliteral)
  obtain ⟨value, hvalue⟩ := Option.isSome_iff_exists.1 (full _ hentry rfl)
  exact ⟨value, by rw [lastOf?, entryOf?, hliteral, Option.bind_some, hvalue]⟩

theorem find?_isEither {names : List String} {name : String} (h : name ∈ names)
    (heither : isEither one two name = true) :
    names.find? (isEither one two) = some one ∨ names.find? (isEither one two) = some two := by
  obtain ⟨found, hfound⟩ := Option.isSome_iff_exists.1 (List.find?_isSome.2 ⟨name, h, heither⟩)
  rcases eq_or_eq_of_isEither (List.find?_some hfound) with rfl | rfl
  · exact .inl hfound
  · exact .inr hfound

/-- Where every entry of both names gives something, writing the entries over each other changes what
the last of them says only if one name comes back. -/
theorem SpelledBy.get?_ofPairs_eq_iff (spelled : SpelledBy key one two) (hne : one ≠ two)
    {entries : Bag Literal}
    (full : ∀ entry ∈ entries, isEither one two entry.1 = true →
      ((normalize [entry]).get? key).isSome = true) :
    (normalize (Bag.ofPairs entries)).get? key = (normalize entries).get? key ↔
      (ComesBack entries one two → lastOf? entries key one = lastOf? entries key two) := by
  rw [spelled.get?_ofPairs, spelled.get?_normalize_last full]
  -- What is found first and what is found last, from both ends of the same names.
  have hends : ∀ {name}, name ∈ entries.names → isEither one two name = true →
      (entries.names.find? (isEither one two) = some one ∨
        entries.names.find? (isEither one two) = some two) ∧
      (entries.names.reverse.find? (isEither one two) = some one ∨
        entries.names.reverse.find? (isEither one two) = some two) :=
    fun hmem heither => ⟨find?_isEither hmem heither, find?_isEither (List.mem_reverse.2 hmem) heither⟩
  by_cases hone : one ∈ entries.names <;> by_cases htwo : two ∈ entries.names
  · obtain ⟨x, hx⟩ := exists_lastOf? hone fun entry hmem heq =>
      full entry hmem (heq ▸ isEither_left one two)
    obtain ⟨y, hy⟩ := exists_lastOf? htwo fun entry hmem heq =>
      full entry hmem (heq ▸ isEither_right one two)
    obtain ⟨hfirst | hfirst, hlast | hlast⟩ := hends hone (isEither_left one two) <;>
      simp [ComesBack, hone, htwo, hfirst, hlast, hx, hy, hne, eq_comm]
  · obtain ⟨hfirst, hlast⟩ := hends hone (isEither_left one two)
    have hfirst := hfirst.resolve_right fun h => htwo (List.mem_of_find?_eq_some h)
    have hlast := hlast.resolve_right fun h => htwo (List.mem_reverse.1 (List.mem_of_find?_eq_some h))
    simp [ComesBack, htwo, hfirst, hlast, lastOf?_of_not_mem htwo]
  · obtain ⟨hfirst, hlast⟩ := hends htwo (isEither_right one two)
    have hfirst := hfirst.resolve_left fun h => hone (List.mem_of_find?_eq_some h)
    have hlast := hlast.resolve_left fun h => hone (List.mem_reverse.1 (List.mem_of_find?_eq_some h))
    simp [ComesBack, hone, hfirst, hlast, lastOf?_of_not_mem hone]
  · have hlast : entries.names.reverse.find? (isEither one two) = none := by
      refine List.find?_eq_none.2 fun name hmem heither => ?_
      rcases eq_or_eq_of_isEither heither with rfl | rfl
      · exact hone (List.mem_reverse.1 hmem)
      · exact htwo (List.mem_reverse.1 hmem)
    simp [ComesBack, hone, hlast, lastOf?_of_not_mem hone, lastOf?_of_not_mem htwo]

theorem get?_of_isEmpty {style : Style} (h : style.isEmpty = true) (key : String) :
    style.get? key = none := by
  have hbucket : ∀ bucket, style.bucket bucket = none := fun bucket =>
    Option.isNone_iff_eq_none.1 (List.all_eq_true.1 h bucket bucket.mem_all)
  simp [get?, hbucket]

end Style

namespace Markup.Attributes

theorem get?_style?_array {given : Attributes} {styles : List (Bag Literal)}
    (h : given.literal? "style" = some (some (.array (styles.map .object)))) (key : String) :
    given.style?.bind (·.get? key) = (Style.normalize (Bag.ofPairs styles.flatten)).get? key := by
  have hmerged : (styles.map Literal.object).foldl
      (fun merged item => Bag.putAll merged ((Literal.object? item).getD [])) []
        = Bag.ofPairs styles.flatten := by
    rw [List.foldl_map, Bag.ofPairs, Bag.putAll, List.foldl_flatten]
    rfl
  have hstyle : given.style? = (some (Style.normalize (Bag.ofPairs styles.flatten))).filter
      fun style => !style.isEmpty := by
    rw [style?, h]
    exact congrArg (fun bag => ((some bag).map Style.normalize).filter fun style => !style.isEmpty) hmerged
  rw [hstyle]
  cases hempty : (Style.normalize (Bag.ofPairs styles.flatten)).isEmpty with
  | true => simp [Option.filter, hempty, Style.get?_of_isEmpty hempty]
  | false => simp [Option.filter, hempty]

open Style (Plain IsOffset offsetKeys rightmost? lastOf? isEither ComesBack)

/-- Several plain styles for one element. The right-most style that has a key wins, with one exception:
the parts of an offset, which have a key of their own and a name in common. Of these two spellings the one
counts that comes up last for the first time, with its last value, and the other one only where that gives
nothing. So, if every offset is an object, the right-most style wins unless one spelling comes back after
the other one and the two differ in their last values. -/
theorem style?_rightmost_iff (given : Attributes) (styles : List (Bag Literal))
    (hstyles : given.literal? "style" = some (some (.array (styles.map .object))))
    (plain : ∀ style ∈ styles, Plain style) :
    (∀ key, key ∉ offsetKeys → given.style?.bind (·.get? key) = rightmost? styles key) ∧
    ∀ key ∈ offsetKeys,
      (given.style?.bind (·.get? key)
        = if (Bag.names styles.flatten).find? (isEither "shadowOffset" key) = some "shadowOffset" then
            (lastOf? styles.flatten key key).or (lastOf? styles.flatten key "shadowOffset")
          else (lastOf? styles.flatten key "shadowOffset").or (lastOf? styles.flatten key key)) ∧
      ((∀ style ∈ styles, ∀ entry ∈ style, entry.1 = "shadowOffset" → IsOffset entry.2) →
        (given.style?.bind (·.get? key) = rightmost? styles key ↔
          (ComesBack styles.flatten "shadowOffset" key →
            lastOf? styles.flatten key "shadowOffset" = lastOf? styles.flatten key key))) := by
  have hplain : Plain styles.flatten := by
    intro entry hentry
    obtain ⟨style, hstyle, hmem⟩ := List.mem_flatten.1 hentry
    exact plain style hstyle entry hmem
  refine ⟨fun key hkey => ?_, fun key hkey => ⟨?_, fun hoffsets => ?_⟩⟩
  · rw [get?_style?_array hstyles, Style.rightmost?_eq, hplain.get?_normalize hkey,
      Style.get?_ofPairs_of_spelledBy_self (Style.spelledBy_self hkey)]
  · rw [get?_style?_array hstyles, (Style.spelledBy_offset key).get?_ofPairs]
  · obtain ⟨bucket, hbucket⟩ := Style.exists_bucket_of_offsetKeys hkey
    have hne : "shadowOffset" ≠ key := by
      rintro rfl
      exact absurd hkey (by decide)
    rw [get?_style?_array hstyles, Style.rightmost?_eq]
    refine (Style.spelledBy_offset key).get?_ofPairs_eq_iff hne ?_
    rintro ⟨name, literal⟩ hmem heither
    obtain ⟨style, hstyle, hentry⟩ := List.mem_flatten.1 hmem
    rcases Style.eq_or_eq_of_isEither heither with rfl | rfl
    · exact Style.isSome_get?_offset hkey (hoffsets style hstyle _ hentry rfl)
    · rcases plain style hstyle _ hentry with ⟨value, rfl⟩ | ⟨heq, -⟩
      · exact Style.isSome_get?_scalar hbucket value
      · exact absurd heq.symm hne

/-- An offset, a part of it by its own key, and another offset in the style to the right: the part keeps
its own value, and only the other part takes that of the right-most style. -/
theorem style?_rightmost_comesBack :
    let offset (width height : Float) : Literal :=
      .object [("width", .number width), ("height", .number height)]
    let styles : List (Bag Literal) :=
      [[("shadowOffset", offset 1 2), ("shadowOffsetX", .number 5)], [("shadowOffset", offset 3 4)]]
    let given : Attributes := [("style", .literal (.array (styles.map .object)))]
    given.literal? "style" = some (some (.array (styles.map .object))) ∧
    (∀ style ∈ styles, Plain style) ∧
    (∀ style ∈ styles, ∀ entry ∈ style, entry.1 = "shadowOffset" → IsOffset entry.2) ∧
    given.style?.bind (·.get? "shadowOffsetX") = some (.number 5) ∧
    rightmost? styles "shadowOffsetX" = some (.number 3) ∧
    given.style?.bind (·.get? "shadowOffsetX") ≠ rightmost? styles "shadowOffsetX" ∧
    given.style?.bind (·.get? "shadowOffsetY") = rightmost? styles "shadowOffsetY" := by
  intro offset styles given
  have hoffset : ∀ width height, IsOffset (offset width height) :=
    fun width height => ⟨_, .number width, .number height, rfl, rfl, rfl⟩
  have hleft : Plain [("shadowOffset", offset 1 2), ("shadowOffsetX", .number 5)] :=
    List.forall_mem_cons.2 ⟨.inr ⟨rfl, hoffset 1 2⟩,
      List.forall_mem_singleton.2 (.inl ⟨.number 5, rfl⟩)⟩
  have hright : Plain [("shadowOffset", offset 3 4)] :=
    List.forall_mem_singleton.2 (.inr ⟨rfl, hoffset 3 4⟩)
  have plain : ∀ style ∈ styles, Plain style :=
    List.forall_mem_cons.2 ⟨hleft, List.forall_mem_singleton.2 hright⟩
  have hoffsets : ∀ style ∈ styles, ∀ entry ∈ style, entry.1 = "shadowOffset" → IsOffset entry.2 := by
    refine List.forall_mem_cons.2 ⟨List.forall_mem_cons.2 ⟨fun _ => hoffset 1 2, ?_⟩, ?_⟩
    · exact List.forall_mem_singleton.2 fun h => absurd h (by decide)
    · exact List.forall_mem_singleton.2 (List.forall_mem_singleton.2 fun _ => hoffset 3 4)
  obtain ⟨-, hparts⟩ := style?_rightmost_iff given styles rfl plain
  have hx := (hparts "shadowOffsetX" (by decide)).2 hoffsets
  have hy := (hparts "shadowOffsetY" (by decide)).2 hoffsets
  refine ⟨rfl, plain, hoffsets, rfl, rfl, fun heq => ?_, hy.2 fun hback => ?_⟩
  · have hback : ComesBack styles.flatten "shadowOffset" "shadowOffsetX" := ⟨by decide, by decide, rfl⟩
    have hnumber : (3 : Float) = 5 := StyleValue.number.inj (Option.some.inj (hx.1 heq hback))
    exact absurd (congrArg Float.toBits hnumber) (by decide)
  · exact absurd hback.2.1 (by decide)

end Markup.Attributes

end Widgetry
