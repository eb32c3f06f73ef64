import Mathlib.Logic.Relation
import Widgetry.Markup.Text
import Widgetry.Proofs.Files.Paths
import Widgetry.Proofs.Text.Trimming

/-!
The layout of text between tags. Every line is trimmed where another line touches it, so that blanks at
line ends and blank lines leave no trace, and what is shown is a single line. Main statement: texts that
differ only in their layout are shown alike, however their lines end.
-/

namespace Widgetry.Markup

/-! ## Lines -/

theorem splitLines_eq_splitAt (cs : List Char) : splitLines cs = Path.splitAt '\n' cs := by
  induction cs with
  | nil => rfl
  | cons c rest ih =>
    by_cases hc : c = '\n'
    · subst hc
      simp [splitLines, Path.splitAt, ih]
    · obtain ⟨line, lines, hrest⟩ := List.exists_cons_of_ne_nil (Path.splitAt_ne_nil '\n' rest)
      simp [splitLines, Path.splitAt, hc, ih, hrest]

theorem splitLines_ne_nil (cs : List Char) : splitLines cs ≠ [] := by
  rw [splitLines_eq_splitAt]
  exact Path.splitAt_ne_nil '\n' cs

theorem splitLines_append (front back : List Char) :
    splitLines (front ++ '\n' :: back) = splitLines front ++ splitLines back := by
  simp only [splitLines_eq_splitAt, Path.splitAt_append]

theorem splitLines_of_not_mem {cs : List Char} (h : '\n' ∉ cs) : splitLines cs = [cs] := by
  rw [splitLines_eq_splitAt, Path.splitAt_of_not_mem h]

theorem splitLines_cons {c : Char} (hc : c ≠ '\n') {cs line : List Char} {lines : List (List Char)}
    (h : splitLines cs = line :: lines) : splitLines (c :: cs) = (c :: line) :: lines := by
  rw [splitLines_eq_splitAt] at h ⊢
  simp [Path.splitAt, hc, h]

theorem not_mem_of_mem_splitLines {cs line : List Char} (h : line ∈ splitLines cs) : '\n' ∉ line := by
  induction cs generalizing line with
  | nil => simp_all [splitLines]
  | cons c rest ih =>
    by_cases hc : c = '\n'
    · subst hc
      rcases List.mem_cons.1 h with rfl | hlater
      · exact List.not_mem_nil
      · exact ih hlater
    · obtain ⟨first, others, hrest⟩ := List.exists_cons_of_ne_nil (splitLines_ne_nil rest)
      rw [splitLines_cons hc hrest] at h
      rw [hrest] at ih
      rcases List.mem_cons.1 h with rfl | hlater
      · exact List.not_mem_cons_of_ne_of_not_mem (Ne.symm hc) (ih List.mem_cons_self)
      · exact ih (List.mem_cons_of_mem first hlater)

/-- More text without a line end goes to the last line. -/
theorem exists_last_line (front : List Char) {more : List Char} (h : '\n' ∉ more) :
    ∃ lines line, splitLines front = lines ++ [line] ∧
      splitLines (front ++ more) = lines ++ [line ++ more] := by
  induction front with
  | nil => exact ⟨[], [], rfl, splitLines_of_not_mem h⟩
  | cons c rest ih =>
    obtain ⟨lines, line, hrest, hmore⟩ := ih
    by_cases hc : c = '\n'
    · subst hc
      exact ⟨[] :: lines, line, congrArg ([] :: ·) hrest, congrArg ([] :: ·) hmore⟩
    · cases lines with
      | nil => exact ⟨[], c :: line, splitLines_cons hc hrest, splitLines_cons hc hmore⟩
      | cons first others =>
        exact ⟨(c :: first) :: others, line, splitLines_cons hc hrest, splitLines_cons hc hmore⟩

/-- Text without a line end that is put in front goes to the first line. -/
theorem exists_first_line {more : List Char} (h : '\n' ∉ more) (back : List Char) :
    ∃ line lines, splitLines back = line :: lines ∧
      splitLines (more ++ back) = (more ++ line) :: lines := by
  induction more with
  | nil =>
    obtain ⟨line, lines, hback⟩ := List.exists_cons_of_ne_nil (splitLines_ne_nil back)
    exact ⟨line, lines, hback, hback⟩
  | cons c rest ih =>
    obtain ⟨hc, hrest⟩ := List.ne_and_not_mem_of_not_mem_cons h
    obtain ⟨line, lines, hback, hmore⟩ := ih hrest
    exact ⟨line, lines, hback, splitLines_cons hc.symm hmore⟩

/-! ## Trimming -/

/-- Nothing but blanks and tabs. -/
def IsIndent (cs : List Char) : Prop := ∀ c ∈ cs, isIndent c = true

instance (cs : List Char) : Decidable (IsIndent cs) :=
  decidable_of_iff (cs.all isIndent = true) List.all_eq_true

theorem IsIndent.not_mem {cs : List Char} (h : IsIndent cs) {c : Char} (hc : isIndent c = false) :
    c ∉ cs := fun hmem => Bool.eq_false_iff.1 hc (h c hmem)

theorem trimLine_append (isFirst : Bool) (line : List Char) {more : List Char} (h : IsIndent more) :
    trimLine isFirst false (line ++ more) = trimLine isFirst false line := by
  cases isFirst with
  | true => exact Text.dropEndWhile_append line h
  | false =>
    show Text.dropEndWhile isIndent ((line ++ more).dropWhile isIndent)
      = Text.dropEndWhile isIndent (line.dropWhile isIndent)
    rw [List.dropWhile_append]
    split
    · next hline =>
      rw [List.isEmpty_iff.1 hline, ← List.append_nil more, List.dropWhile_append_of_pos h,
        List.dropWhile_nil]
    · exact Text.dropEndWhile_append _ h

theorem trimLine_prepend (isLast : Bool) {more : List Char} (h : IsIndent more) (line : List Char) :
    trimLine false isLast (more ++ line) = trimLine false isLast line := by
  simp only [trimLine, Bool.false_eq_true, if_false, List.dropWhile_append_of_pos h]

theorem trimLine_of_isIndent {line : List Char} (h : IsIndent line) :
    trimLine false false line = [] := by
  have hnone : trimLine false false ([] ++ line) = [] := trimLine_append false [] h
  exact hnone

theorem mem_of_mem_trimLine {isFirst isLast : Bool} {line : List Char} {c : Char}
    (h : c ∈ trimLine isFirst isLast line) : c ∈ line := by
  have hstart : ∀ {cs : List Char}, c ∈ cs.dropWhile isIndent → c ∈ cs :=
    fun hc => (List.dropWhile_sublist isIndent).subset hc
  cases isFirst <;> cases isLast
  · exact hstart (Text.mem_of_mem_dropEndWhile h)
  · exact hstart h
  · exact Text.mem_of_mem_dropEndWhile h
  · exact h

/-- Trims lines that others follow. -/
def trimBefore (isFirst : Bool) : List (List Char) → List (List Char)
  | [] => []
  | line :: rest => trimLine isFirst false line :: rest.map (trimLine false false)

/-- Where a text is cut at a line end, both parts are trimmed on their own. -/
theorem trimLines_append (isFirst : Bool) {front back : List (List Char)} (hfront : front ≠ [])
    (hback : back ≠ []) :
    trimLines isFirst (front ++ back) = trimBefore isFirst front ++ trimLines false back := by
  induction front generalizing isFirst with
  | nil => exact absurd rfl hfront
  | cons line rest ih =>
    cases rest with
    | nil =>
      obtain ⟨first, others, rfl⟩ := List.exists_cons_of_ne_nil hback
      rfl
    | cons second later =>
      have hlater := ih false (List.cons_ne_nil second later)
      exact congrArg (trimLine isFirst false line :: ·) hlater

theorem trimBefore_append (isFirst : Bool) (lines : List (List Char)) (line : List Char)
    {more : List Char} (h : IsIndent more) :
    trimBefore isFirst (lines ++ [line ++ more]) = trimBefore isFirst (lines ++ [line]) := by
  cases lines with
  | nil => simp [trimBefore, trimLine_append isFirst line h]
  | cons first others => simp [trimBefore, trimLine_append false line h]

theorem trimLines_prepend {more : List Char} (h : IsIndent more) (line : List Char)
    (lines : List (List Char)) :
    trimLines false ((more ++ line) :: lines) = trimLines false (line :: lines) := by
  cases lines with
  | nil => exact congrArg (fun first => [first]) (trimLine_prepend true h line)
  | cons second others => exact congrArg (· :: _) (trimLine_prepend false h line)

theorem mem_of_mem_trimLines {isFirst : Bool} {lines : List (List Char)} {line : List Char} {c : Char}
    (hline : line ∈ trimLines isFirst lines) (hc : c ∈ line) : ∃ whole ∈ lines, c ∈ whole := by
  induction lines generalizing isFirst with
  | nil => cases hline
  | cons first rest ih =>
    cases rest with
    | nil =>
      obtain rfl := List.mem_singleton.1 hline
      exact ⟨first, List.mem_cons_self, mem_of_mem_trimLine hc⟩
    | cons second later =>
      rcases List.mem_cons.1 hline with rfl | hlater
      · exact ⟨first, List.mem_cons_self, mem_of_mem_trimLine hc⟩
      · obtain ⟨whole, hwhole, hmem⟩ := ih hlater
        exact ⟨whole, List.mem_cons_of_mem first hwhole, hmem⟩

/-! ## Lines that are shown -/

/-- The lines of a text of which something is shown. -/
def shownLines (lines : List (List Char)) : List (List Char) :=
  (trimLines true (lines.map dropReturn)).filter fun line => !line.isEmpty

theorem normalizeText_eq (raw : String) :
    normalizeText raw = String.ofList ([' '].intercalate (shownLines (splitLines raw.toList))) := rfl

theorem dropReturn_of_not_mem {line : List Char} (h : '\r' ∉ line) : dropReturn line = line :=
  if_neg fun hlast => h (List.mem_of_getLast? hlast)

theorem map_dropReturn {cs : List Char} (h : '\r' ∉ cs) :
    (splitLines cs).map dropReturn = splitLines cs := by
  have hlines : ∀ line ∈ splitLines cs, dropReturn line = line := by
    intro line hline
    rw [splitLines_eq_splitAt] at hline
    exact dropReturn_of_not_mem fun hmem => h (Path.mem_of_mem_splitAt hline hmem)
  exact (List.map_congr_left hlines).trans (List.map_id _)

theorem shownLines_splitLines {cs : List Char} (h : '\r' ∉ cs) :
    shownLines (splitLines cs)
      = (trimLines true (splitLines cs)).filter fun line => !line.isEmpty := by
  rw [shownLines, map_dropReturn h]

theorem mem_intercalate {lines : List (List Char)} {c : Char} (h : c ∈ [' '].intercalate lines) :
    c = ' ' ∨ ∃ line ∈ lines, c ∈ line := by
  induction lines with
  | nil => cases h
  | cons line rest ih =>
    cases rest with
    | nil => exact .inr ⟨line, List.mem_cons_self, by simpa using h⟩
    | cons second later =>
      rw [List.intercalate_cons_cons, List.mem_append, List.mem_append, List.mem_singleton] at h
      rcases h with (hline | hblank) | hlater
      · exact .inr ⟨line, List.mem_cons_self, hline⟩
      · exact .inl hblank
      · obtain hblank | ⟨found, hfound, hc⟩ := ih hlater
        · exact .inl hblank
        · exact .inr ⟨found, List.mem_cons_of_mem line hfound, hc⟩

/-- What is shown are blanks and characters of the lines. -/
theorem mem_normalizeText {raw : String} {c : Char} (h : c ∈ (normalizeText raw).toList) :
    c = ' ' ∨ c ∈ raw.toList ∧ c ≠ '\n' := by
  rw [normalizeText_eq, String.toList_ofList] at h
  refine (mem_intercalate h).imp_right ?_
  rintro ⟨shown, hshown, hc⟩
  obtain ⟨line, hline, hmem⟩ := mem_of_mem_trimLines (List.mem_filter.1 hshown).1 hc
  obtain ⟨whole, hwhole, rfl⟩ := List.mem_map.1 hline
  have hkept : c ∈ whole := by
    rw [dropReturn] at hmem
    split at hmem
    · exact List.dropLast_subset whole hmem
    · exact hmem
  refine ⟨?_, fun heq => not_mem_of_mem_splitLines hwhole (heq ▸ hkept)⟩
  rw [splitLines_eq_splitAt] at hwhole
  exact Path.mem_of_mem_splitAt hwhole hkept

/-- A single line is shown as it is. -/
theorem normalizeText_of_single_line {text : String} (hline : '\n' ∉ text.toList)
    (hreturn : '\r' ∉ text.toList) : normalizeText text = text := by
  have hshown : shownLines [text.toList] = if text.toList = [] then [] else [text.toList] := by
    simp only [shownLines, List.map_singleton, dropReturn_of_not_mem hreturn, trimLines, trimLine,
      if_true, List.filter_cons, List.filter_nil, Bool.not_eq_true', List.isEmpty_eq_false_iff]
    split_ifs <;> simp_all
  rw [normalizeText_eq, splitLines_of_not_mem hline, hshown]
  split
  · next hempty => exact (String.toList_eq_nil_iff.1 hempty).symm
  · rw [List.intercalate_singleton, String.ofList_toList]

/-! ## Layout -/

/-- A text laid out anew around one of its line ends: with other blanks and tabs on both sides, or with
a blank line more. -/
inductive Relaid : List Char → List Char → Prop
  | indent {before before' after after' : List Char} (front back : List Char)
      (hbefore : IsIndent before) (hbefore' : IsIndent before') (hafter : IsIndent after)
      (hafter' : IsIndent after') :
      Relaid (front ++ before ++ '\n' :: (after ++ back)) (front ++ before' ++ '\n' :: (after' ++ back))
  | blankLine {blank : List Char} (front back : List Char) (hblank : IsIndent blank) :
      Relaid (front ++ '\n' :: back) (front ++ '\n' :: (blank ++ '\n' :: back))

namespace Relaid

variable {cs ds : List Char}

theorem not_mem (h : Relaid cs ds) (hreturn : '\r' ∉ cs) : '\r' ∉ ds := by
  have hindent : ∀ {blanks : List Char}, IsIndent blanks → '\r' ∉ blanks :=
    fun hblanks => hblanks.not_mem (by decide)
  cases h with
  | indent front back _ hbefore' _ hafter' =>
    simp_all [List.mem_append, hindent hbefore', hindent hafter']
  | blankLine front back hblank =>
    simp_all [List.mem_append, hindent hblank]

theorem trimLines_indent (front back : List Char) {before after : List Char} (hbefore : IsIndent before)
    (hafter : IsIndent after) :
    trimLines true (splitLines (front ++ before ++ '\n' :: (after ++ back)))
      = trimLines true (splitLines (front ++ '\n' :: back)) := by
  obtain ⟨lines, line, hfront, hbefore'⟩ := exists_last_line front (hbefore.not_mem (by decide))
  obtain ⟨line', lines', hback, hafter'⟩ := exists_first_line (hafter.not_mem (by decide)) back
  rw [splitLines_append, splitLines_append, hfront, hbefore', hback, hafter',
    trimLines_append true (by simp) (by simp), trimLines_append true (by simp) (by simp),
    trimBefore_append true lines line hbefore, trimLines_prepend hafter line' lines']

theorem shownLines_eq (h : Relaid cs ds) (hreturn : '\r' ∉ cs) :
    shownLines (splitLines ds) = shownLines (splitLines cs) := by
  rw [shownLines_splitLines hreturn, shownLines_splitLines (h.not_mem hreturn)]
  cases h with
  | indent front back hbefore hbefore' hafter hafter' =>
    rw [trimLines_indent front back hbefore hafter, trimLines_indent front back hbefore' hafter']
  | @blankLine blank front back hblank =>
    have hne := splitLines_ne_nil
    have hblanks : trimLines false (splitLines blank ++ splitLines back)
        = [] :: trimLines false (splitLines back) := by
      rw [splitLines_of_not_mem (hblank.not_mem (by decide)),
        trimLines_append false (by simp) (hne back)]
      simp [trimBefore, trimLine_of_isIndent hblank]
    rw [splitLines_append, splitLines_append, splitLines_append,
      trimLines_append true (hne front) (by simp [hne]), hblanks,
      trimLines_append true (hne front) (hne back), List.filter_append, List.filter_append]
    rfl

end Relaid

/-- A text each of whose lines but the last ends with a carriage return. -/
def withReturns (cs : List Char) : List Char :=
  cs.flatMap fun c => if c = '\n' then ['\r', '\n'] else [c]

theorem dropReturn_cons {c : Char} (hc : c ≠ '\r') (line : List Char) :
    dropReturn (c :: line) = c :: dropReturn line := by
  cases line with
  | nil => simp [dropReturn, hc]
  | cons d rest =>
    simp only [dropReturn, List.getLast?_cons_cons]
    split <;> rfl

theorem map_dropReturn_withReturns {cs : List Char} (h : '\r' ∉ cs) :
    (splitLines (withReturns cs)).map dropReturn = splitLines cs := by
  induction cs with
  | nil => rfl
  | cons c rest ih =>
    obtain ⟨hreturn, hrest⟩ := List.ne_and_not_mem_of_not_mem_cons h
    by_cases hc : c = '\n'
    · subst hc
      exact congrArg ([] :: ·) (ih hrest)
    · have hcons : withReturns (c :: rest) = c :: withReturns rest := by simp [withReturns, hc]
      obtain ⟨line, lines, hlines⟩ := List.exists_cons_of_ne_nil (splitLines_ne_nil (withReturns rest))
      have hback := ih hrest
      rw [hlines, List.map_cons] at hback
      rw [hcons, splitLines_cons hc hlines, List.map_cons, dropReturn_cons hreturn.symm,
        splitLines_cons hc hback.symm]

theorem shownLines_withReturns {cs : List Char} (h : '\r' ∉ cs) :
    shownLines (splitLines (withReturns cs)) = shownLines (splitLines cs) := by
  rw [shownLines, map_dropReturn_withReturns h, shownLines_splitLines h]

/-- However a text is laid out and its lines are ended, the same is shown. It is a single line, and so
it stays as it is when it is normalized again. -/
theorem normalizeText_of_relaid {raw relaid : String} (hreturn : '\r' ∉ raw.toList)
    (h : Relation.ReflTransGen Relaid raw.toList relaid.toList) :
    normalizeText relaid = normalizeText raw ∧
      normalizeText (String.ofList (withReturns relaid.toList)) = normalizeText raw ∧
      '\n' ∉ (normalizeText raw).toList ∧
      normalizeText (normalizeText raw) = normalizeText raw := by
  -- The edits keep both what is shown and that there is no carriage return.
  have hedits : ∀ cs, Relation.ReflTransGen Relaid raw.toList cs →
      '\r' ∉ cs ∧ shownLines (splitLines cs) = shownLines (splitLines raw.toList) := by
    intro cs hcs
    induction hcs with
    | refl => exact ⟨hreturn, rfl⟩
    | tail _ hstep ih => exact ⟨hstep.not_mem ih.1, (hstep.shownLines_eq ih.1).trans ih.2⟩
  obtain ⟨hreturn', hshown⟩ := hedits relaid.toList h
  have hline : '\n' ∉ (normalizeText raw).toList :=
    fun hmem => (mem_normalizeText hmem).elim (by decide) fun hchar => hchar.2 rfl
  have hplain : '\r' ∉ (normalizeText raw).toList :=
    fun hmem => (mem_normalizeText hmem).elim (by decide) fun hchar => hreturn hchar.1
  refine ⟨?_, ?_, hline, normalizeText_of_single_line hline hplain⟩
  · rw [normalizeText_eq, normalizeText_eq, hshown]
  · rw [normalizeText_eq, normalizeText_eq, String.toList_ofList, shownLines_withReturns hreturn',
      hshown]

/-- Two words on two lines, moved apart by blanks, a tab and a blank line. -/
theorem normalizeText_of_relaid_words :
    Relation.ReflTransGen Relaid "\n Hello\nthere".toList "\n Hello \t\n \n  there".toList ∧
      normalizeText (String.ofList (withReturns "\n Hello \t\n \n  there".toList))
        = normalizeText "\n Hello\nthere" := by
  have hindent : Relaid "\n Hello\nthere".toList "\n Hello \t\n  there".toList :=
    @Relaid.indent [] [' ', '\t'] [] [' ', ' '] "\n Hello".toList "there".toList (by decide)
      (by decide) (by decide) (by decide)
  have hblank : Relaid "\n Hello \t\n  there".toList "\n Hello \t\n \n  there".toList :=
    @Relaid.blankLine [' '] "\n Hello \t".toList "  there".toList (by decide)
  have hedits := (Relation.ReflTransGen.single hindent).tail hblank
  exact ⟨hedits, (normalizeText_of_relaid (by decide) hedits).2.1⟩

end Widgetry.Markup
