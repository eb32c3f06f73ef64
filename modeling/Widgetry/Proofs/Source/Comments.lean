import Mathlib.Algebra.Group.Nat.Defs
import Mathlib.Data.List.Infix
import Mathlib.Data.String.Basic
import Widgetry.Source.Comment

/-!
The comment before a statement. It is looked for backwards, from its end to the nearest opening, so
what is found reaches back to the last opening inside the comment. Main statement: the whole comment
is found exactly when nothing in it looks like another opening, and a marker is seen exactly when it
stands in what is found.
-/

namespace Widgetry.Source

/-! ## Places -/

namespace Cursor

theorem seek?_append (cs rest : List Char) (here : Nat) :
    seek? (here + String.utf8Len cs) (cs ++ rest) here
      = some ⟨rest, here + String.utf8Len cs⟩ := by
  induction cs generalizing here with
  | nil => cases rest <;> simp [seek?]
  | cons c cs ih =>
    have hsize := c.utf8Size_pos
    have hnext : here + String.utf8Len (c :: cs) = here + c.utf8Size + String.utf8Len cs := by
      rw [String.utf8Len_cons]
      omega
    rw [hnext, List.cons_append, seek?, if_neg (by omega), if_neg (by omega), ih]

theorem charsUntil_append (cs rest : List Char) (here : Nat) :
    charsUntil (here + String.utf8Len cs) (cs ++ rest) here = cs := by
  induction cs generalizing here with
  | nil => cases rest <;> simp [charsUntil]
  | cons c cs ih =>
    have hsize := c.utf8Size_pos
    have hnext : here + String.utf8Len (c :: cs) = here + c.utf8Size + String.utf8Len cs := by
      rw [String.utf8Len_cons]
      omega
    rw [hnext, List.cons_append, charsUntil, if_pos (by omega), ih]

end Cursor

/-! ## The opening of a comment -/

/-- What opens a comment. -/
def opening : List Char := ['/', '*']

/-- Backwards, the first opening that is met is the last one. -/
theorem openingBackwards?_reverse {tail : List Char} (h : ¬ opening <:+: tail)
    (before found : List Char) :
    openingBackwards? (before ++ opening ++ tail).reverse found
      = some (opening ++ tail ++ found) := by
  induction tail using List.reverseRecOn generalizing found with
  | nil => simp [opening, openingBackwards?]
  | append_singleton tail c ih =>
    have htail : ¬ opening <:+: tail := fun hinner =>
      h (hinner.trans (List.infix_append [] tail [c]))
    -- A star behind a slash would be an opening in the tail.
    have hstep : ∀ rest, (before ++ opening ++ tail).reverse = '/' :: rest → c ≠ '*' := by
      rintro rest hrest rfl
      obtain rfl | ⟨init, last, rfl⟩ := List.eq_nil_or_concat' tail
      · simp [opening] at hrest
      · rw [← List.append_assoc, List.reverse_concat] at hrest
        obtain ⟨rfl, -⟩ := List.cons.inj hrest
        exact h ⟨init, [], by simp [opening]⟩
    rw [← List.append_assoc, List.reverse_concat, openingBackwards?, ih htail]
    · simp
    · intro rest hc hrest
      exact hstep rest hrest hc

/-- Every comment has a last opening; it is the first one exactly when there is no other. -/
theorem exists_last_opening (body : List Char) :
    ∃ head tail, opening ++ body = head ++ opening ++ tail ∧ ¬ opening <:+: tail ∧
      (head = [] ↔ ¬ opening <:+: body) := by
  induction hlength : body.length using Nat.strong_induction_on generalizing body with
  | _ length ih =>
    by_cases hbody : opening <:+: body
    · obtain ⟨before, rest, heq⟩ := id hbody
      have hshorter : rest.length < length := by
        rw [← hlength, ← heq]
        simp only [opening, List.length_append, List.length_cons]
        omega
      obtain ⟨head, tail, hrest, htail, -⟩ := ih rest.length hshorter rest rfl
      refine ⟨opening ++ before ++ head, tail, ?_, htail, ?_⟩
      · rw [← heq, List.append_assoc before, hrest]
        simp
      · exact iff_of_false (by simp [opening]) (not_not.2 hbody)
    · exact ⟨[], body, rfl, hbody, by simp [hbody]⟩

/-! ## Markers -/

theorem occursIn_iff {part cs : List Char} : occursIn part cs = true ↔ part <:+: cs := by
  induction cs with
  | nil => simp [occursIn]
  | cons c cs ih =>
    rw [occursIn, Bool.or_eq_true, List.isPrefixOf_iff_prefix, ih, List.infix_cons_iff]

theorem hasMarker_iff {text found : String} {offset : Nat}
    (h : leadingComment? text offset = some found) (marker : String) :
    hasMarker text offset marker = true ↔ marker.toList <:+: found.toList := by
  rw [hasMarker, h, Option.any_some, occursIn_iff]

/-! ## The comment before a statement -/

theorem isBlank_slash : Text.isBlank '/' = false := by decide

/-- A comment is found from its last opening on, whatever stands before and behind. -/
theorem leadingComment?_of_last_opening {tail blanks : List Char} (htail : ¬ opening <:+: tail)
    (hblanks : ∀ c ∈ blanks, Text.isBlank c = true) (before after : List Char) :
    let place := before ++ opening ++ tail ++ ['*', '/'] ++ blanks
    leadingComment? (String.ofList (place ++ after)) (String.utf8Len place)
      = some (String.ofList (opening ++ tail ++ ['*', '/'])) := by
  intro place
  have hseek := Cursor.seek?_append place after 0
  have hbefore := Cursor.charsUntil_append place after 0
  have hend : place.reverse.dropWhile Text.isBlank
      = '/' :: '*' :: (before ++ opening ++ tail).reverse := by
    rw [List.reverse_append, List.dropWhile_append_of_pos
      (fun c hc => hblanks c (List.mem_reverse.1 hc)), List.reverse_append]
    exact List.dropWhile_cons_of_neg (by simp [isBlank_slash])
  rw [Nat.zero_add] at hseek hbefore
  rw [leadingComment?, String.toList_ofList, hseek, hbefore]
  simp only [hend, openingBackwards?_reverse htail, Option.map_some, List.append_nil]

/-- The comment right before a statement is found from its last opening on. This is the whole
comment exactly when nothing in its body looks like an opening, and a marker is seen exactly when it
stands in what is found: one before the last opening is missed. -/
theorem leadingComment?_before_statement (before body blanks after : String)
    (hblanks : ∀ c ∈ blanks.toList, Text.isBlank c = true) :
    let comment := "/*" ++ body ++ "*/"
    let text := before ++ comment ++ blanks ++ after
    let offset := (before ++ comment ++ blanks).utf8ByteSize
    ∃ found, leadingComment? text offset = some found ∧
      (∃ head tail, comment = head ++ found ∧ found = "/*" ++ tail ++ "*/" ∧
        ¬ opening <:+: tail.toList) ∧
      (found = comment ↔ ¬ opening <:+: body.toList) ∧
      ∀ marker, hasMarker text offset marker = true ↔ marker.toList <:+: found.toList := by
  intro comment text offset
  obtain ⟨head, tail, heq, htail, hhead⟩ := exists_last_opening body.toList
  have hopening : "/*".toList = opening := by decide
  have hclosing : "*/".toList = ['*', '/'] := by decide
  have hcomment : comment.toList = head ++ (opening ++ tail ++ ['*', '/']) := by
    simp only [comment, String.toList_append, hopening, hclosing, heq, List.append_assoc]
  have hplace : (before ++ comment ++ blanks).toList
      = (before.toList ++ head) ++ opening ++ tail ++ ['*', '/'] ++ blanks.toList := by
    simp only [String.toList_append, hcomment, List.append_assoc]
  have hfound := leadingComment?_of_last_opening htail hblanks (before.toList ++ head) after.toList
  dsimp only at hfound
  rw [← hplace, ← String.toList_append, String.ofList_toList, String.utf8Len_toList] at hfound
  refine ⟨_, hfound, ⟨String.ofList head, String.ofList tail, ?_, ?_, ?_⟩, ?_, hasMarker_iff hfound⟩
  · rw [← String.toList_inj, hcomment, String.toList_append, String.toList_ofList,
      String.toList_ofList]
  · simp only [← String.toList_inj, String.toList_append, String.toList_ofList, hopening, hclosing]
  · rwa [String.toList_ofList]
  · rw [← hhead, ← String.toList_inj, String.toList_ofList, hcomment, List.self_eq_append_left]

/-- A marker before a pattern of files is missed: the pattern looks like an opening. -/
theorem leadingComment?_before_pattern :
    let comment := "/*" ++ "* @brik-activity for src/*.tsx " ++ "*/"
    let text := "const ä = 1;\n" ++ comment ++ "\n" ++ "export function A() \x7b\x7d"
    let offset := ("const ä = 1;\n" ++ comment ++ "\n").utf8ByteSize
    (∀ c ∈ "\n".toList, Text.isBlank c = true) ∧
      activityMarker.toList <:+: comment.toList ∧
      leadingComment? text offset = some "/*.tsx */" ∧
      hasMarker text offset activityMarker = false := by
  intro comment text offset
  have hblanks : ∀ c ∈ "\n".toList, Text.isBlank c = true := List.all_eq_true.1 (by decide)
  obtain ⟨found, hfound, -, -, hmarker⟩ := leadingComment?_before_statement "const ä = 1;\n"
    "* @brik-activity for src/*.tsx " "\n" "export function A() \x7b\x7d" hblanks
  have hpart : leadingComment? text offset = some "/*.tsx */" := by decide +kernel
  obtain rfl : found = "/*.tsx */" := Option.some.inj (hfound.symm.trans hpart)
  refine ⟨hblanks, by decide +kernel, hpart, Bool.eq_false_iff.2 fun hseen => ?_⟩
  exact absurd ((hmarker activityMarker).1 hseen) (by decide +kernel)

end Widgetry.Source
