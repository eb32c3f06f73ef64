import Mathlib.Data.List.Basic
import Widgetry.Files.Path

/-!
Joining paths. The names in a plain text that is joined to a path become its last components, and what
stands in front stays as it was. Joining a joined path is joining in turn, and from a path that
something was joined to, the whole leads back to what was joined.
-/

namespace Widgetry.Path

/-! ## Segments -/

theorem splitAt_ne_nil (mark : Char) (cs : List Char) : splitAt mark cs ≠ [] := by
  cases cs with
  | nil => simp [splitAt]
  | cons c rest =>
    simp only [splitAt]
    split
    · simp
    · split <;> simp

theorem splitAt_append (mark : Char) (front back : List Char) :
    splitAt mark (front ++ mark :: back) = splitAt mark front ++ splitAt mark back := by
  induction front with
  | nil => simp [splitAt]
  | cons c rest ih =>
    simp only [List.cons_append, splitAt, ih]
    split
    · rfl
    · obtain ⟨first, others, hsplit⟩ := List.exists_cons_of_ne_nil (splitAt_ne_nil mark rest)
      simp [hsplit]

theorem splitAt_of_not_mem {mark : Char} {cs : List Char} (h : mark ∉ cs) :
    splitAt mark cs = [cs] := by
  induction cs with
  | nil => rfl
  | cons c rest ih =>
    obtain ⟨hne, hrest⟩ := List.ne_and_not_mem_of_not_mem_cons h
    simp [splitAt, Ne.symm hne, ih hrest]

/-- The pieces of a text with the mark between them are the text. -/
theorem intercalate_splitAt (mark : Char) (cs : List Char) :
    [mark].intercalate (splitAt mark cs) = cs := by
  induction cs with
  | nil => rfl
  | cons c rest ih =>
    obtain ⟨first, others, hsplit⟩ := List.exists_cons_of_ne_nil (splitAt_ne_nil mark rest)
    simp only [splitAt, hsplit] at ih ⊢
    split
    · next h => rw [List.intercalate_cons_cons, ih, h, List.nil_append, List.singleton_append]
    · cases others with
      | nil => simpa using ih
      | cons second later =>
        rw [List.intercalate_cons_cons] at ih ⊢
        rw [← ih, List.cons_append, List.cons_append]

theorem intercalate_split (mark : Char) (text : String) :
    (String.singleton mark).intercalate (split mark text) = text := by
  rw [← String.toList_inj, String.toList_intercalate, split, List.map_map]
  simpa using intercalate_splitAt mark text.toList

theorem mem_of_mem_splitAt {mark c : Char} {cs piece : List Char} (hpiece : piece ∈ splitAt mark cs)
    (hc : c ∈ piece) : c ∈ cs := by
  induction cs generalizing piece with
  | nil => simp_all [splitAt]
  | cons d rest ih =>
    obtain ⟨first, others, hsplit⟩ := List.exists_cons_of_ne_nil (splitAt_ne_nil mark rest)
    simp only [splitAt, hsplit] at ih hpiece
    split at hpiece
    · rcases List.mem_cons.1 hpiece with rfl | hlater
      · cases hc
      · exact List.mem_cons_of_mem d (ih hlater hc)
    · rcases List.mem_cons.1 hpiece with rfl | hlater
      · exact List.mem_cons.2 ((List.mem_cons.1 hc).imp_right (ih List.mem_cons_self))
      · exact List.mem_cons_of_mem d (ih (List.mem_cons_of_mem first hlater) hc)

theorem mem_of_mem_split {mark c : Char} {text piece : String} (hpiece : piece ∈ split mark text)
    (hc : c ∈ piece.toList) : c ∈ text.toList := by
  obtain ⟨cs, hcs, rfl⟩ := List.mem_map.1 hpiece
  exact mem_of_mem_splitAt hcs (by simpa using hc)

theorem segments_append (front back : String) :
    segments ⟨front ++ "/" ++ back⟩ = segments ⟨front⟩ ++ segments ⟨back⟩ := by
  simp [segments, split, splitAt_append]

theorem segments_of_not_mem {text : String} (h : '/' ∉ text.toList) : segments ⟨text⟩ = [text] := by
  simp [segments, split, splitAt_of_not_mem h]

theorem segments_ne_nil (path : Path) : path.segments ≠ [] := by
  simp [segments, split, splitAt_ne_nil]

/-! ## Components -/

theorem bodyComponents_append (front back : List String) :
    bodyComponents (front ++ back) = bodyComponents front ++ bodyComponents back := by
  induction front with
  | nil => rfl
  | cons segment rest ih => simp only [List.cons_append, bodyComponents, ih]; split_ifs <;> rfl

/-- Every segment of the text names an entry of a folder. -/
def IsPlain (text : String) : Prop :=
  ∀ segment ∈ segments ⟨text⟩, isIdle segment = false ∧ segment ≠ ".."

instance (text : String) : Decidable (IsPlain text) :=
  inferInstanceAs (Decidable (∀ segment ∈ segments ⟨text⟩, _))

theorem IsPlain.append {front back : String} (hfront : IsPlain front) (hback : IsPlain back) :
    IsPlain (front ++ "/" ++ back) := by
  rw [IsPlain, segments_append]
  exact List.forall_mem_append.2 ⟨hfront, hback⟩

theorem bodyComponents_eq_map {names : List String}
    (h : ∀ name ∈ names, isIdle name = false ∧ name ≠ "..") :
    bodyComponents names = names.map .name := by
  induction names with
  | nil => rfl
  | cons name rest ih =>
    obtain ⟨⟨hleads, hinside⟩, hrest⟩ := List.forall_mem_cons.1 h
    simp [bodyComponents, hleads, hinside, ih hrest]

/-- What the first of several segments stands for. -/
def frontComponents (first : String) : List Component :=
  if first.isEmpty then [.root] else if first = "." then [.here] else bodyComponents [first]

theorem frontComponents_eq {first : String} (h : first ≠ "") :
    frontComponents first = if first = "." then [.here] else bodyComponents [first] := by
  simp [frontComponents, h]

theorem components_eq_of_segments {path : Path} {first : String} {rest : List String}
    (hsegments : path.segments = first :: rest) (h : rest ≠ [] ∨ first ≠ "") :
    path.components = frontComponents first ++ bodyComponents rest := by
  cases rest with
  | nil =>
    have hfirst : first ≠ "" := h.resolve_left fun hrest => hrest rfl
    simp [components, hsegments, frontComponents_eq hfirst, bodyComponents]
  | cons second others =>
    have happ := bodyComponents_append [first] (second :: others)
    simp only [components, hsegments, frontComponents]
    split_ifs <;> simp_all

theorem ne_empty_of_segments {path : Path} {segment : String} (h : path.segments = [segment])
    (htext : path.text ≠ "") : segment ≠ "" := by
  rintro rfl
  have hsplit : splitAt '/' path.text.toList = [[]] := by
    simpa [segments, split, List.map_eq_singleton_iff] using h
  cases hcs : path.text.toList with
  | nil => exact htext (String.toList_eq_nil_iff.1 hcs)
  | cons c rest =>
    rw [hcs, splitAt] at hsplit
    split at hsplit
    · exact splitAt_ne_nil '/' rest (List.cons.inj hsplit).2
    · split at hsplit <;> simp at hsplit

/-! ## Joining -/

section

variable {base folder : Path} {text : String}

theorem IsPlain.not_startsWith (h : IsPlain text) : text.startsWith '/' = false := by
  refine Bool.eq_false_iff.2 fun hstart => ?_
  obtain ⟨rest, rfl⟩ := String.startsWith_char_iff_exists_append.1 hstart
  have hempty : "" ∈ segments ⟨"" ++ "/" ++ rest⟩ := by
    rw [segments_append]
    exact List.mem_append_left _ (by decide)
  exact absurd (h "" (by simpa using hempty)).1 (by decide)

theorem startsWith_append {front : String} (back : String) (h : front ≠ "") :
    (front ++ back).startsWith '/' = front.startsWith '/' := by
  have hne : front.toList ≠ [] := mt String.toList_eq_nil_iff.1 h
  simp [String.startsWith_char_eq_head?, List.head?_append_of_ne_nil _ hne]

theorem endsWith_append (front : String) {back : String} (h : back ≠ "") :
    (front ++ back).endsWith '/' = back.endsWith '/' := by
  have hne : back.toList ≠ [] := mt String.toList_eq_nil_iff.1 h
  simp [String.endsWith_char_eq_getLast?, List.getLast?_append_of_ne_nil _ hne]

theorem join_of_endsWith (h : base.text.endsWith '/' = true) (htext : IsPlain text) :
    base.join text = ⟨base.text ++ text⟩ := by
  simp [join, htext.not_startsWith, h]

theorem join_of_not_endsWith (hbase : base.text ≠ "") (h : base.text.endsWith '/' = false)
    (htext : IsPlain text) : base.join text = ⟨base.text ++ "/" ++ text⟩ := by
  simp [join, htext.not_startsWith, h, hbase]

theorem join_ne_empty (text : String) (hbase : base.text ≠ "") : (base.join text).text ≠ "" := by
  unfold join
  split_ifs with hstart
  · intro hempty
    rw [show text = "" from hempty] at hstart
    simp [String.startsWith_char_eq_head?] at hstart
  · simp [hbase]
  · simp [hbase]

theorem components_of_isPlain (h : IsPlain text) :
    components ⟨text⟩ = (segments ⟨text⟩).map .name := by
  obtain ⟨first, rest, hsegments⟩ := List.exists_cons_of_ne_nil (segments_ne_nil ⟨text⟩)
  have hplain := h
  rw [IsPlain, hsegments, List.forall_mem_cons] at hplain
  obtain ⟨⟨hleads, hinside⟩, hrest⟩ := hplain
  have hempty : first ≠ "" := by
    rintro rfl
    exact absurd hleads (by decide)
  have hpoint : first ≠ "." := by
    rintro rfl
    exact absurd hleads (by decide)
  rw [components_eq_of_segments hsegments (.inr hempty), frontComponents_eq hempty, if_neg hpoint,
    bodyComponents_eq_map (List.forall_mem_singleton.2 ⟨hleads, hinside⟩),
    bodyComponents_eq_map hrest, hsegments]
  rfl

/-- The segments of a joined path, and the components of what stands in front. -/
theorem exists_segments_join (hbase : base.text ≠ "") (h : IsPlain text) :
    ∃ first rest, (base.join text).segments = first :: (rest ++ segments ⟨text⟩) ∧
      base.components = frontComponents first ++ bodyComponents rest := by
  cases hend : base.text.endsWith '/' with
  | true =>
    obtain ⟨front, hfront⟩ := String.endsWith_char_iff_exists_append.1 hend
    obtain ⟨whole⟩ := base
    obtain rfl : whole = front ++ "/" := hfront
    obtain ⟨first, rest, hfirst⟩ := List.exists_cons_of_ne_nil (segments_ne_nil ⟨front⟩)
    have hslash : segments ⟨front ++ "/"⟩ = first :: (rest ++ [""]) := by
      have hempty : segments ⟨""⟩ = [""] := segments_of_not_mem (by decide)
      simpa [hfirst, hempty] using segments_append front ""
    refine ⟨first, rest, ?_, ?_⟩
    · rw [join_of_endsWith hend h, segments_append, hfirst, List.cons_append]
    · rw [components_eq_of_segments hslash (.inl (by simp)), bodyComponents_append]
      simp [bodyComponents, isIdle]
  | false =>
    obtain ⟨first, rest, hfirst⟩ := List.exists_cons_of_ne_nil (segments_ne_nil base)
    have hkept : rest ≠ [] ∨ first ≠ "" := by
      refine or_iff_not_imp_left.2 fun hrest => ?_
      rw [not_not.1 hrest] at hfirst
      exact ne_empty_of_segments hfirst hbase
    refine ⟨first, rest, ?_, components_eq_of_segments hfirst hkept⟩
    rw [join_of_not_endsWith hbase hend h, segments_append, hfirst, List.cons_append]

theorem join_empty (text : String) : join ⟨""⟩ text = ⟨text⟩ := by simp [join]

theorem components_join (base : Path) (h : IsPlain text) :
    (base.join text).components = base.components ++ (segments ⟨text⟩).map .name := by
  by_cases hbase : base.text = ""
  · obtain ⟨front⟩ := base
    obtain rfl : front = "" := hbase
    have hnone : components ⟨""⟩ = [] := by decide
    rw [join_empty, hnone, List.nil_append, components_of_isPlain h]
  · obtain ⟨first, rest, hsegments, hcomponents⟩ := exists_segments_join hbase h
    rw [components_eq_of_segments hsegments (.inl (by simp [segments_ne_nil])), hcomponents,
      bodyComponents_append, bodyComponents_eq_map h, List.append_assoc]

/-- A joined path ends with the segments that were joined. -/
theorem getLast?_segments_join (base : Path) (h : IsPlain text) :
    (base.join text).segments.getLast? = (segments ⟨text⟩).getLast? := by
  by_cases hbase : base.text = ""
  · obtain ⟨front⟩ := base
    obtain rfl : front = "" := hbase
    rw [join_empty]
  · obtain ⟨first, rest, hsegments, -⟩ := exists_segments_join hbase h
    rw [hsegments, ← List.cons_append, List.getLast?_append_of_ne_nil _ (segments_ne_nil _)]

theorem join_join (base : Path) (hfolder : folder.text ≠ "") (h : IsPlain text) :
    base.join (folder.join text).text = (base.join folder.text).join text := by
  -- The text is joined by the same link in both cases: the end of `folder` decides on it.
  obtain ⟨link, hlink⟩ : ∃ link, ∀ front,
      join ⟨front ++ folder.text⟩ text = ⟨front ++ (folder.text ++ link ++ text)⟩ := by
    have hend := fun front => endsWith_append front hfolder
    cases hslash : folder.text.endsWith '/' with
    | true =>
      exact ⟨"", fun front => by
        rw [join_of_endsWith ((hend front).trans hslash) h, String.append_empty,
          String.append_assoc]⟩
    | false =>
      exact ⟨"/", fun front => by
        rw [join_of_not_endsWith (by simp [hfolder]) ((hend front).trans hslash) h]
        simp only [String.append_assoc]⟩
  have hself : (folder.join text).text = folder.text ++ link ++ text := by
    simpa using congrArg Path.text (hlink "")
  have hstart : (folder.text ++ link ++ text).startsWith '/' = folder.text.startsWith '/' := by
    rw [String.append_assoc, startsWith_append _ hfolder]
  rw [hself]
  simp only [join.eq_def base, hstart]
  split_ifs
  · simpa using (hlink "").symm
  · exact (hlink base.text).symm
  · rw [hlink (base.text ++ "/"), String.append_assoc]

/-! ## The way back -/

theorem segmentsAfter?_of_isIdle {wanted : List Component} {segment : String} {rest : List String}
    (h : isIdle segment = true) :
    segmentsAfter? wanted (segment :: rest) = segmentsAfter? wanted rest := by
  cases wanted with
  | nil => simp [segmentsAfter?, h]
  | cons component others => rw [segmentsAfter?, if_pos h]

theorem segmentsAfter?_append (front back : List String) :
    segmentsAfter? (bodyComponents front) (front ++ back) = some (back.dropWhile isIdle) := by
  induction front with
  | nil => simp [bodyComponents, segmentsAfter?]
  | cons segment rest ih =>
    rw [List.cons_append, bodyComponents]
    by_cases hidle : isIdle segment = true
    · rw [if_pos hidle, segmentsAfter?_of_isIdle hidle, ih]
    · rw [if_neg hidle]
      split
      · next hup => rw [segmentsAfter?, if_neg hidle, if_pos hup, if_pos rfl, ih]
      · next hup => rw [segmentsAfter?, if_neg hidle, if_neg hup, if_pos rfl, ih]

theorem dropWhile_eq_self {names : List String} (h : ∀ name ∈ names, isIdle name = false) :
    names.dropWhile isIdle = names := by
  cases names with
  | nil => rfl
  | cons name rest => rw [List.dropWhile_cons, h name List.mem_cons_self, if_neg (by decide)]

/-- No idle segment stands at either end of a plain text. -/
theorem IsPlain.ofSegments_dropLastWhile (h : IsPlain text) :
    ofSegments (dropLastWhile isIdle (segments ⟨text⟩)) = ⟨text⟩ := by
  have hreverse : ∀ name ∈ (segments ⟨text⟩).reverse, isIdle name = false :=
    fun name hname => (h name (List.mem_reverse.1 hname)).1
  rw [dropLastWhile, dropWhile_eq_self hreverse, List.reverse_reverse]
  exact congrArg Path.mk (intercalate_split '/' text)

/-- From a path that a text was joined to, the whole leads back to the text. -/
theorem relativeTo?_join (base : Path) (h : IsPlain text) :
    base.relativeTo? (base.join text) = some ⟨text⟩ := by
  have hdrop : (segments ⟨text⟩).dropWhile isIdle = segments ⟨text⟩ :=
    dropWhile_eq_self fun name hname => (h name hname).1
  by_cases hbase : base.text = ""
  · obtain ⟨front⟩ := base
    obtain rfl : front = "" := hbase
    have hnone : components ⟨""⟩ = [] := by decide
    simp only [relativeTo?, hnone, join_empty, Option.map_some, h.ofSegments_dropLastWhile]
  · obtain ⟨first, rest, hsegments, hcomponents⟩ := exists_segments_join hbase h
    have hback := segmentsAfter?_append rest (segments ⟨text⟩)
    rw [hdrop] at hback
    by_cases hempty : first = ""
    · have hcomponents : base.components = .root :: bodyComponents rest := by
        simp [hcomponents, frontComponents, hempty]
      simp [relativeTo?, hcomponents, hsegments, hempty, hback, segments_ne_nil,
        h.ofSegments_dropLastWhile]
    · rw [frontComponents_eq hempty] at hcomponents
      by_cases hpoint : first = "."
      · rw [if_pos hpoint] at hcomponents
        simp [relativeTo?, hcomponents, hsegments, hpoint, hback, h.ofSegments_dropLastWhile]
      · have hidle : isIdle first = false := by simp [isIdle, hempty, hpoint]
        rw [if_neg hpoint] at hcomponents
        by_cases hup : first = ".."
        · have hcomponents : base.components = .up :: bodyComponents rest := by
            simp [hcomponents, bodyComponents, hup, isIdle]
          simp [relativeTo?, hcomponents, hsegments, hup, segmentsAfter?, isIdle, hback,
            h.ofSegments_dropLastWhile]
        · have hcomponents : base.components = .name first :: bodyComponents rest := by
            simp [hcomponents, bodyComponents, hup, hidle]
          simp [relativeTo?, hcomponents, hsegments, hup, segmentsAfter?, hidle, hback,
            h.ofSegments_dropLastWhile]

/-! ## Names -/

/-- A name that an entry of a folder can have. -/
def IsName (name : String) : Prop := '/' ∉ name.toList ∧ IsPlain name

instance (name : String) : Decidable (IsName name) := inferInstanceAs (Decidable (_ ∧ _))

theorem IsName.segments {name : String} (h : IsName name) : Path.segments ⟨name⟩ = [name] :=
  segments_of_not_mem h.1

theorem fileName?_eq_some {path : Path} {name : String} :
    path.fileName? = some name ↔ ∃ front, path.components = front ++ [.name name] := by
  rw [fileName?]
  constructor
  · intro h
    split at h
    · next found hlast =>
      obtain rfl := Option.some.inj h
      exact List.getLast?_eq_some_iff.1 hlast
    · cases h
  · rintro ⟨front, hfront⟩
    simp [hfront]

theorem fileName?_join (base : Path) {text name : String} (h : IsPlain text)
    (hlast : (segments ⟨text⟩).getLast? = some name) : (base.join text).fileName? = some name := by
  obtain ⟨front, hfront⟩ := List.getLast?_eq_some_iff.1 hlast
  refine fileName?_eq_some.2 ⟨base.components ++ front.map .name, ?_⟩
  simp [components_join base h, hfront]

/-- A name with an ending is split before it, unless nothing else is left. -/
theorem splitName_append (stem : String) {ending : String} (h : '.' ∉ ending.toList) :
    splitName (stem ++ "." ++ ending)
      = if stem.isEmpty then (stem ++ "." ++ ending, none) else (stem, some ending) := by
  have hsplit : split '.' (stem ++ "." ++ ending) = split '.' stem ++ [ending] := by
    simp [split, splitAt_append, splitAt_of_not_mem h]
  have hstem : ".".intercalate (split '.' stem) = stem := intercalate_split '.' stem
  obtain ⟨last, front, hlast⟩ : ∃ last front, (split '.' stem).reverse = last :: front :=
    List.exists_cons_of_ne_nil (by simp [split, splitAt_ne_nil])
  have hfront : (last :: front).reverse = split '.' stem := by rw [← hlast, List.reverse_reverse]
  rw [splitName, hsplit, List.reverse_append, hlast]
  simp only [List.reverse_singleton, List.singleton_append, hfront, hstem]

theorem mem_of_splitName {name ending : String} {c : Char} (h : (splitName name).2 = some ending)
    (hc : c ∈ ending.toList) : c ∈ name.toList := by
  rw [splitName] at h
  split at h
  · next last first rest hreverse =>
    dsimp only at h
    split at h
    · cases h
    · obtain rfl := Option.some.inj h
      have hmem : last ∈ split '.' name := List.mem_reverse.1 (by simp [hreverse])
      exact mem_of_mem_split hmem hc
  · cases h

end

end Widgetry.Path
