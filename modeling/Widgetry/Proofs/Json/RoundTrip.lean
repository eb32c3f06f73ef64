import Widgetry.Proofs.Decimal.Whole
import Widgetry.Proofs.Json.Numbers

/-!
Texts of JSON values and what is read of them. `Spelled` relates a value to its texts, with any
blanks between their parts; both printed forms are such texts. Reading a text of a value gives the
value back, exactly if it is not nested too deeply.
-/

namespace Widgetry.Json

/-! ## Quoted texts -/

theorem value?_digit : ∀ n : Fin 16, Hex.value? (Hex.digit n.val) = some n.val := by decide

theorem readUnit?_control {n : Nat} (h : n < 32) (rest : List Char) :
    readUnit? ('0' :: '0' :: Hex.digit (n / 16) :: Hex.digit (n % 16) :: rest)
      = some (n, rest) := by
  have hhigh := value?_digit ⟨n / 16, by omega⟩
  have hlow := value?_digit ⟨n % 16, by omega⟩
  have hzero : Hex.value? '0' = some 0 := by decide
  have hn : ((0 * 16 + 0) * 16 + n / 16) * 16 + n % 16 = n := by omega
  simp only [readUnit?, hzero, hhigh, hlow, Option.bind_eq_bind, Option.bind_some, hn]

theorem readUnicode?_control {c : Char} (h : c.toNat < 32) (rest : List Char) :
    readUnicode? ('0' :: '0' :: Hex.digit (c.toNat / 16) :: Hex.digit (c.toNat % 16) :: rest)
      = some (c, rest) := by
  simp only [readUnicode?, readUnit?_control h, Option.bind_eq_bind, Option.bind_some]
  rw [if_neg (by omega), if_neg (by omega), Char.ofNat_toNat]

theorem readQuoted?_escapeChar (fuel : Nat) (found : List Char) (c : Char) (rest : List Char) :
    readQuoted? (fuel + 1) found (escapeChar c ++ rest) = readQuoted? fuel (c :: found) rest := by
  by_cases hquote : c = '"'
  · subst hquote; rfl
  by_cases hslash : c = '\\'
  · subst hslash; rfl
  by_cases hline : c = '\n'
  · subst hline; rfl
  by_cases hreturn : c = '\r'
  · subst hreturn; rfl
  by_cases htab : c = '\t'
  · subst htab; rfl
  unfold escapeChar
  rw [if_neg hquote, if_neg hslash, if_neg hline, if_neg hreturn, if_neg htab]
  by_cases hback : c.toNat = 8
  · rw [if_pos hback, ← Char.ofNat_toNat c, hback]; rfl
  by_cases hfeed : c.toNat = 12
  · rw [if_neg hback, if_pos hfeed, ← Char.ofNat_toNat c, hfeed]; rfl
  rw [if_neg hback, if_neg hfeed]
  by_cases hcontrol : c.toNat < 32
  · rw [if_pos hcontrol]
    simp only [List.cons_append, List.nil_append, readQuoted?, readUnicode?_control hcontrol,
      Option.bind_eq_bind, Option.bind_some]
  · rw [if_neg hcontrol, List.cons_append, List.nil_append, readQuoted?]
    · rw [if_neg (by simp [hslash, hcontrol])]
    · exact hquote
    · exact fun rest h => absurd h hslash
    · exact fun c rest h => absurd h hslash

theorem length_escapeChar_pos (c : Char) : 0 < (escapeChar c).length := by
  have hread := readQuoted?_escapeChar 0 [] c ['"']
  cases h : escapeChar c with
  | nil =>
    rw [h] at hread
    cases hread
  | cons d ds => exact Nat.succ_pos _

theorem readQuoted?_escaped (cs rest found : List Char) {fuel : Nat}
    (enough : (cs.flatMap escapeChar).length < fuel) :
    readQuoted? fuel found (cs.flatMap escapeChar ++ '"' :: rest)
      = some (String.ofList (found.reverse ++ cs), rest) := by
  induction cs generalizing fuel found with
  | nil =>
    cases fuel with
    | zero => cases enough
    | succ fuel => simp [readQuoted?]
  | cons c cs ih =>
    cases fuel with
    | zero => cases enough
    | succ fuel =>
      have hpos := length_escapeChar_pos c
      simp only [List.flatMap_cons, List.length_append] at enough
      rw [List.flatMap_cons, List.append_assoc, readQuoted?_escapeChar, ih _ (by omega)]
      simp

theorem toList_quote (text : String) :
    (quote text).toList = '"' :: (text.toList.flatMap escapeChar ++ ['"']) := by
  simp [quote]

theorem readQuoted?_quote (text : String) (rest : List Char) :
    let quoted := text.toList.flatMap escapeChar ++ '"' :: rest
    readQuoted? (quoted.length + 1) [] quoted = some (text, rest) := by
  intro quoted
  have henough : (text.toList.flatMap escapeChar).length < quoted.length + 1 := by
    simp only [quoted, List.length_append]
    omega
  simpa using readQuoted?_escaped text.toList rest [] henough

/-! ## Nesting -/

mutual

/-- The levels of lists and objects in a value. -/
def depth : Json → Nat
  | .array items => itemsDepth items + 1
  | .object members => membersDepth members + 1
  | _ => 0

def itemsDepth : List Json → Nat
  | [] => 0
  | item :: rest => max (depth item) (itemsDepth rest)

def membersDepth : List (String × Json) → Nat
  | [] => 0
  | (_, value) :: rest => max (depth value) (membersDepth rest)

end

/-! ## Texts of values -/

def Blanks (cs : List Char) : Prop := ∀ c ∈ cs, isBlank c = true

mutual

/-- The texts of a value, with any blanks between their parts. -/
inductive Spelled : Json → List Char → Prop
  | null : Spelled .null "null".toList
  | bool {b : Bool} : Spelled (.bool b) (if b then "true" else "false").toList
  | integer {n : Int} (fits : InWord n) : Spelled (.number (.integer n)) (toString n).toList
  | float {x : Float} (stable : Stable x) : Spelled (.number (.float x)) (floatText x).toList
  | string {text : String} : Spelled (.string text) (quote text).toList
  | noItems : Spelled (.array []) ['[', ']']
  | array {items : List Json} {cs : List Char} (spelled : SpelledItems items cs) :
      Spelled (.array items) ('[' :: (cs ++ [']']))
  | noMembers : Spelled (.object []) ['\x7b', '\x7d']
  | object {members : List (String × Json)} {cs : List Char}
      (spelled : SpelledMembers members cs) :
      Spelled (.object members) ('\x7b' :: (cs ++ ['\x7d']))

/-- The texts of the items of a list; there is at least one. -/
inductive SpelledItems : List Json → List Char → Prop
  | last {item : Json} {before cs after : List Char} (blanks : Blanks before)
      (spelled : Spelled item cs) (trailing : Blanks after) :
      SpelledItems [item] (before ++ (cs ++ after))
  | more {item : Json} {items : List Json} {before cs ds : List Char} (blanks : Blanks before)
      (spelled : Spelled item cs) (others : SpelledItems items ds) :
      SpelledItems (item :: items) (before ++ (cs ++ ',' :: ds))

/-- The texts of the members of an object; there is at least one. -/
inductive SpelledMembers : List (String × Json) → List Char → Prop
  | last (name : String) {value : Json} {before between cs after : List Char}
      (blanks : Blanks before) (inner : Blanks between) (spelled : Spelled value cs)
      (trailing : Blanks after) :
      SpelledMembers [(name, value)]
        (before ++ ((quote name).toList ++ ':' :: (between ++ (cs ++ after))))
  | more (name : String) {value : Json} {members : List (String × Json)}
      {before between cs ds : List Char} (blanks : Blanks before) (inner : Blanks between)
      (spelled : Spelled value cs) (others : SpelledMembers members ds) :
      SpelledMembers ((name, value) :: members)
        (before ++ ((quote name).toList ++ ':' :: (between ++ (cs ++ ',' :: ds))))

end

/-! ## Reading texts of values -/

theorem skipBlanks_append {before : List Char} (blanks : Blanks before) (cs : List Char) :
    skipBlanks (before ++ cs) = skipBlanks cs :=
  List.dropWhile_append_of_pos blanks

theorem skipBlanks_cons {c : Char} (h : isBlank c = false) (cs : List Char) :
    skipBlanks (c :: cs) = c :: cs :=
  List.dropWhile_cons_of_neg (by simp [h])

theorem ends_blanks {before : List Char} (blanks : Blanks before) {rest : List Char}
    (ends : Ends rest) : Ends (before ++ rest) := by
  cases before with
  | nil => exact ends
  | cons c before =>
    have hblank := blanks c (by simp)
    simp only [isBlank, Bool.or_eq_true, decide_eq_true_eq] at hblank
    refine ends_cons _ ?_
    rcases hblank with ((rfl | rfl) | rfl) | rfl <;> decide

theorem skipBlanks_skipBlanks (cs : List Char) : skipBlanks (skipBlanks cs) = skipBlanks cs := by
  induction cs with
  | nil => rfl
  | cons c cs ih =>
    cases h : isBlank c with
    | true => simpa [skipBlanks, h] using ih
    | false => rw [skipBlanks_cons h, skipBlanks_cons h]

theorem readValue?_skipBlanks (fuel depth : Nat) (cs : List Char) :
    readValue? fuel depth (skipBlanks cs) = readValue? fuel depth cs := by
  cases fuel with
  | zero => simp only [readValue?]
  | succ fuel => simp only [readValue?, skipBlanks_skipBlanks]

theorem readItems?_skipBlanks (fuel depth : Nat) (cs : List Char) :
    readItems? fuel depth (skipBlanks cs) = readItems? fuel depth cs := by
  cases fuel with
  | zero => simp only [readItems?]
  | succ fuel => simp only [readItems?, readValue?_skipBlanks]

theorem readMembers?_skipBlanks (fuel depth : Nat) (cs : List Char) :
    readMembers? fuel depth (skipBlanks cs) = readMembers? fuel depth cs := by
  cases fuel with
  | zero => simp only [readMembers?]
  | succ fuel => simp only [readMembers?, skipBlanks_skipBlanks]

theorem readValue?_append {before : List Char} (blanks : Blanks before) (fuel depth : Nat)
    (cs : List Char) : readValue? fuel depth (before ++ cs) = readValue? fuel depth cs := by
  rw [← readValue?_skipBlanks, skipBlanks_append blanks, readValue?_skipBlanks]

theorem readValue?_items {cs : List Char} (some : (skipBlanks cs).head? ≠ some ']')
    (fuel depth : Nat) :
    readValue? (fuel + 1) depth ('[' :: cs)
      = if depth = 0 then none
        else (readItems? fuel (depth - 1) cs).map fun (items, rest) => (.array items, rest) := by
  have hskip : skipBlanks ('[' :: cs) = '[' :: cs := rfl
  simp only [readValue?]
  rw [hskip]
  simp only [← readItems?_skipBlanks fuel (depth - 1) cs]
  split
  · rfl
  · split
    · rename_i heq
      exact absurd (by rw [heq]; rfl) some
    · rfl

theorem readValue?_members {cs : List Char} (some : (skipBlanks cs).head? ≠ some '\x7d')
    (fuel depth : Nat) :
    readValue? (fuel + 1) depth ('\x7b' :: cs)
      = if depth = 0 then none
        else (readMembers? fuel (depth - 1) cs).map fun (members, rest) =>
          (.object members, rest) := by
  have hskip : skipBlanks ('\x7b' :: cs) = '\x7b' :: cs := rfl
  simp only [readValue?]
  rw [hskip]
  simp only [← readMembers?_skipBlanks fuel (depth - 1) cs]
  split
  · rfl
  · split
    · rename_i heq
      exact absurd (by rw [heq]; rfl) some
    · rfl

/-- The first character of a text is no blank and does not end a list. -/
theorem Spelled.head {v : Json} {cs : List Char} (h : Spelled v cs) :
    ∃ c ds, cs = c :: ds ∧ isBlank c = false ∧ c ≠ ']' := by
  have hnumeral : ∀ {cs}, Numeral cs → ∃ c ds, cs = c :: ds ∧ isBlank c = false ∧ c ≠ ']' := by
    intro cs hcs
    cases cs with
    | nil => simp [Numeral] at hcs
    | cons c ds =>
      refine ⟨c, ds, rfl, not_isBlank_of_isNumeric (hcs.2 c (by simp)), ?_⟩
      rintro rfl
      exact absurd hcs.1 (by simp)
  cases h with
  | null => exact ⟨'n', _, rfl, by decide⟩
  | @bool b => cases b <;> exact ⟨_, _, rfl, by decide⟩
  | @integer n _ =>
    cases n with
    | ofNat n => exact hnumeral (numeral_repr n)
    | negSucc n => exact ⟨'-', _, String.toList_append, by decide⟩
  | @float x _ =>
    rcases floatText_eq x with h | h | ⟨ds, h, -⟩
    · exact ⟨'n', "ull".toList, by rw [h]; rfl, by decide⟩
    · exact hnumeral h
    · exact ⟨'-', ds, h, by decide⟩
  | string => exact ⟨'"', _, toList_quote _, by decide⟩
  | noItems => exact ⟨'[', _, rfl, by decide⟩
  | array _ => exact ⟨'[', _, rfl, by decide⟩
  | noMembers => exact ⟨'\x7b', _, rfl, by decide⟩
  | object _ => exact ⟨'\x7b', _, rfl, by decide⟩

theorem Spelled.length_pos {v : Json} {cs : List Char} (h : Spelled v cs) : 0 < cs.length := by
  obtain ⟨c, ds, rfl, -⟩ := h.head
  simp

theorem readValue?_quoted (text : String) (fuel depth : Nat) (rest : List Char) :
    readValue? (fuel + 1) depth ('"' :: (text.toList.flatMap escapeChar ++ '"' :: rest))
      = some (.string text, rest) := by
  have hread := readQuoted?_quote text rest
  show (readQuoted? _ [] (text.toList.flatMap escapeChar ++ '"' :: rest)).map _ = _
  rw [hread]
  rfl

theorem readMembers?_append {before : List Char} (blanks : Blanks before) (fuel depth : Nat)
    (cs : List Char) : readMembers? fuel depth (before ++ cs) = readMembers? fuel depth cs := by
  rw [← readMembers?_skipBlanks, skipBlanks_append blanks, readMembers?_skipBlanks]

/-- What is read once the name of a member is. -/
theorem readMembers?_name (name : String) (fuel depth : Nat) (cs : List Char) :
    readMembers? (fuel + 1) depth ((quote name).toList ++ ':' :: cs) = (do
      let (value, rest) ← readValue? fuel depth cs
      match skipBlanks rest with
      | ',' :: rest =>
        let (members, rest) ← readMembers? fuel depth rest
        some ((name, value) :: members, rest)
      | '\x7d' :: rest => some ([(name, value)], rest)
      | _ => none) := by
  have hread := readQuoted?_quote name (':' :: cs)
  rw [toList_quote, List.cons_append, List.append_assoc, readMembers?,
    skipBlanks_cons (by decide)]
  simp only [List.singleton_append, hread, Option.bind_eq_bind, Option.bind_some]
  rfl

theorem SpelledItems.head? {items : List Json} {cs : List Char} (h : SpelledItems items cs)
    (rest : List Char) : (skipBlanks (cs ++ rest)).head? ≠ some ']' := by
  cases h with
  | last blanks spelled _ | more blanks spelled _ =>
    obtain ⟨c, ds, rfl, hblank, hne⟩ := spelled.head
    rw [List.append_assoc, skipBlanks_append blanks, List.append_assoc, List.cons_append,
      skipBlanks_cons hblank]
    simpa using hne

theorem SpelledMembers.head? {members : List (String × Json)} {cs : List Char}
    (h : SpelledMembers members cs) (rest : List Char) :
    (skipBlanks (cs ++ rest)).head? ≠ some '\x7d' := by
  have hquote : isBlank '"' = false := by decide
  cases h with
  | last _ blanks _ _ _ | more _ blanks _ _ _ =>
    rw [List.append_assoc, skipBlanks_append blanks, toList_quote, List.append_assoc,
      List.cons_append, skipBlanks_cons hquote]
    simp

mutual

/-- A text of a value is read as that value, exactly if there are levels enough. -/
theorem readValue?_spelled {v : Json} {cs : List Char} (h : Spelled v cs) (fuel levels : Nat)
    {rest : List Char} (enough : 2 * cs.length ≤ fuel) (ends : Ends rest) :
    readValue? fuel levels (cs ++ rest)
      = if v.depth ≤ levels then some (v, rest) else none := by
  match fuel with
  | 0 => exact absurd h.length_pos (by omega)
  | fuel + 1 =>
    cases h with
    | null => rfl
    | @bool b => cases b <;> rfl
    | integer fits =>
      rw [readValue?_integer fits ends]
      exact (if_pos (Nat.zero_le levels)).symm
    | float stable =>
      rw [readValue?_stable stable ends]
      exact (if_pos (Nat.zero_le levels)).symm
    | @string text =>
      rw [toList_quote, List.cons_append, List.append_assoc, List.singleton_append,
        readValue?_quoted]
      exact (if_pos (Nat.zero_le levels)).symm
    | noItems => cases levels <;> rfl
    | @array items cs spelled =>
      simp only [List.length_cons, List.length_append, List.length_nil] at enough
      rw [List.cons_append, List.append_assoc, List.singleton_append,
        readValue?_items (spelled.head? _), readItems?_spelled spelled _ _ _ (by omega), depth]
      cases levels with
      | zero => simp
      | succ levels => by_cases hdepth : itemsDepth items ≤ levels <;> simp [hdepth]
    | noMembers => cases levels <;> rfl
    | @object members cs spelled =>
      simp only [List.length_cons, List.length_append, List.length_nil] at enough
      rw [List.cons_append, List.append_assoc, List.singleton_append,
        readValue?_members (spelled.head? _), readMembers?_spelled spelled _ _ _ (by omega), depth]
      cases levels with
      | zero => simp
      | succ levels => by_cases hdepth : membersDepth members ≤ levels <;> simp [hdepth]
termination_by structural fuel

theorem readItems?_spelled {items : List Json} {cs : List Char} (h : SpelledItems items cs)
    (fuel levels : Nat) (rest : List Char) (enough : 2 * cs.length + 1 ≤ fuel) :
    readItems? fuel levels (cs ++ ']' :: rest)
      = if itemsDepth items ≤ levels then some (items, rest) else none := by
  match fuel with
  | 0 => exact absurd enough (by omega)
  | fuel + 1 =>
    cases h with
    | @last item before cs after blanks spelled trailing =>
      simp only [List.length_append] at enough
      have hends := ends_blanks trailing (ends_cons rest (c := ']') (by decide))
      have hskip := skipBlanks_append trailing (']' :: rest)
      rw [skipBlanks_cons (by decide)] at hskip
      rw [readItems?, List.append_assoc, List.append_assoc, readValue?_append blanks,
        readValue?_spelled spelled _ _ (by omega) hends]
      by_cases hdepth : item.depth ≤ levels <;> simp [hdepth, itemsDepth, hskip]
    | @more item items before cs ds blanks spelled others =>
      have hpos := spelled.length_pos
      simp only [List.length_append, List.length_cons] at enough
      have hends : Ends (',' :: (ds ++ ']' :: rest)) := ends_cons _ (by decide)
      have hskip : skipBlanks (',' :: (ds ++ ']' :: rest)) = ',' :: (ds ++ ']' :: rest) := rfl
      rw [readItems?, List.append_assoc, List.append_assoc, List.cons_append,
        readValue?_append blanks, readValue?_spelled spelled _ _ (by omega) hends]
      have hothers := readItems?_spelled others fuel levels rest (by omega)
      by_cases hdepth : item.depth ≤ levels
      · simp only [hdepth, if_true, Option.bind_eq_bind, Option.bind_some, hskip, hothers,
          itemsDepth, Nat.max_le, true_and]
        by_cases hrest : itemsDepth items ≤ levels <;> simp [hrest]
      · simp [hdepth, itemsDepth]
termination_by structural fuel

theorem readMembers?_spelled {members : List (String × Json)} {cs : List Char}
    (h : SpelledMembers members cs) (fuel levels : Nat) (rest : List Char)
    (enough : 2 * cs.length + 1 ≤ fuel) :
    readMembers? fuel levels (cs ++ '\x7d' :: rest)
      = if membersDepth members ≤ levels then some (members, rest) else none := by
  match fuel with
  | 0 => exact absurd enough (by omega)
  | fuel + 1 =>
    cases h with
    | @last name value before between cs after blanks inner spelled trailing =>
      simp only [List.length_append, List.length_cons] at enough
      have hends := ends_blanks trailing (ends_cons rest (c := '\x7d') (by decide))
      have hskip := skipBlanks_append trailing ('\x7d' :: rest)
      rw [skipBlanks_cons (by decide)] at hskip
      rw [List.append_assoc, readMembers?_append blanks, List.append_assoc, List.cons_append,
        readMembers?_name, List.append_assoc, List.append_assoc,
        readValue?_append inner, readValue?_spelled spelled _ _ (by omega) hends]
      by_cases hdepth : value.depth ≤ levels <;> simp [hdepth, membersDepth, hskip]
    | @more name value members before between cs ds blanks inner spelled others =>
      have hpos := spelled.length_pos
      simp only [List.length_append, List.length_cons] at enough
      have hends : Ends (',' :: (ds ++ '\x7d' :: rest)) := ends_cons _ (by decide)
      have hskip : skipBlanks (',' :: (ds ++ '\x7d' :: rest)) = ',' :: (ds ++ '\x7d' :: rest) := rfl
      rw [List.append_assoc, readMembers?_append blanks, List.append_assoc, List.cons_append,
        readMembers?_name, List.append_assoc, List.append_assoc, List.cons_append,
        readValue?_append inner, readValue?_spelled spelled _ _ (by omega) hends]
      have hothers := readMembers?_spelled others fuel levels rest (by omega)
      by_cases hdepth : value.depth ≤ levels
      · simp only [hdepth, if_true, Option.bind_eq_bind, Option.bind_some, hskip, hothers,
          membersDepth, Nat.max_le, true_and]
        by_cases hrest : membersDepth members ≤ levels <;> simp [hrest]
      · simp [hdepth, membersDepth]
termination_by structural fuel

end

theorem read?_spelled {v : Json} {text : String} (h : Spelled v text.toList) :
    read? text = if v.depth ≤ maxDepth then some v else none := by
  have hread := readValue?_spelled h (2 * text.toList.length + 2) maxDepth (by omega) ends_nil
  rw [List.append_nil] at hread
  rw [read?, hread]
  split
  · rfl
  · rfl

/-! ## Printed texts -/

mutual

/-- The value that the texts of a value say: what is not finite is null there. -/
def written : Json → Json
  | .number (.float x) => if x.isFinite then .number (.float x) else .null
  | .array items => .array (writtenItems items)
  | .object members => .object (writtenMembers members)
  | value => value

def writtenItems : List Json → List Json
  | [] => []
  | item :: rest => written item :: writtenItems rest

def writtenMembers : List (String × Json) → List (String × Json)
  | [] => []
  | (name, value) :: rest => (name, written value) :: writtenMembers rest

end

mutual

/-- Whole numbers are within 64 bits, and the texts of the others read back as them. -/
def Printable : Json → Prop
  | .number (.integer n) => InWord n
  | .number (.float x) => x.isFinite = true → Stable x
  | .array items => PrintableItems items
  | .object members => PrintableMembers members
  | _ => True

def PrintableItems : List Json → Prop
  | [] => True
  | item :: rest => Printable item ∧ PrintableItems rest

def PrintableMembers : List (String × Json) → Prop
  | [] => True
  | (_, value) :: rest => Printable value ∧ PrintableMembers rest

end

mutual

theorem depth_written : (v : Json) → v.written.depth = v.depth
  | .null | .bool _ | .number (.integer _) | .string _ => rfl
  | .number (.float x) => by
    simp only [written]
    split <;> rfl
  | .array items => by rw [written, depth, depth, itemsDepth_written]
  | .object members => by rw [written, depth, depth, membersDepth_written]

theorem itemsDepth_written : (items : List Json) → itemsDepth (writtenItems items) = itemsDepth items
  | [] => rfl
  | item :: rest => by
    rw [writtenItems, itemsDepth, itemsDepth, depth_written, itemsDepth_written]

theorem membersDepth_written :
    (members : List (String × Json)) → membersDepth (writtenMembers members) = membersDepth members
  | [] => rfl
  | (name, value) :: rest => by
    rw [writtenMembers, membersDepth, membersDepth, depth_written, membersDepth_written]

end

theorem spelled_number {n : Number} (h : Printable (.number n)) :
    Spelled (written (.number n)) n.text.toList := by
  cases n with
  | integer n => exact .integer h
  | float x =>
    simp only [written, Number.text]
    split
    · rename_i hfinite
      exact .float (h hfinite)
    · rename_i hfinite
      have hnull : floatText x = "null" := by
        unfold floatText
        split
        · rename_i heq
          exact absurd ((Double.isFinite_iff_ofFloat x).2 ⟨_, _, _, heq⟩) hfinite
        · rfl
      rw [hnull]
      exact .null

theorem blanks_nil : Blanks [] := by simp [Blanks]

mutual

theorem spelled_compact : (v : Json) → v.Printable → Spelled v.written v.compact.toList
  | .null, _ => .null
  | .bool _, _ => .bool
  | .number _, h => spelled_number h
  | .string _, _ => .string
  | .array items, h => by
    cases items with
    | nil => exact .noItems
    | cons item rest =>
      have hitems := spelledItems_compact (item :: rest) (by simp) h
      simpa only [compact, written, String.toList_append, String.reduceToList, List.cons_append,
        List.nil_append] using Spelled.array hitems
  | .object members, h => by
    cases members with
    | nil => exact .noMembers
    | cons member rest =>
      have hmembers := spelledMembers_compact (member :: rest) (by simp) h
      simpa only [compact, written, String.toList_append, String.reduceToList, List.cons_append,
        List.nil_append] using Spelled.object hmembers

theorem spelledItems_compact : (items : List Json) → items ≠ [] → PrintableItems items →
    SpelledItems (writtenItems items) (compactItems items).toList
  | [], hne, _ => absurd rfl hne
  | [item], _, h => by
    have hlast := SpelledItems.last blanks_nil (spelled_compact item h.1) blanks_nil
    simpa only [compactItems, writtenItems, List.nil_append, List.append_nil] using hlast
  | item :: next :: rest, _, h => by
    have hmore := SpelledItems.more blanks_nil (spelled_compact item h.1)
      (spelledItems_compact (next :: rest) (by simp) h.2)
    simpa only [compactItems, writtenItems, String.toList_append, String.reduceToList, List.append_assoc,
      List.cons_append, List.nil_append] using hmore

theorem spelledMembers_compact : (members : List (String × Json)) → members ≠ [] →
    PrintableMembers members →
    SpelledMembers (writtenMembers members) (compactMembers members).toList
  | [], hne, _ => absurd rfl hne
  | [(name, value)], _, h => by
    have hlast := SpelledMembers.last name blanks_nil blanks_nil (spelled_compact value h.1)
      blanks_nil
    simpa only [compactMembers, writtenMembers, String.toList_append, String.reduceToList, List.append_assoc,
      List.cons_append, List.nil_append, List.append_nil] using hlast
  | (name, value) :: next :: rest, _, h => by
    have hmore := SpelledMembers.more name blanks_nil blanks_nil (spelled_compact value h.1)
      (spelledMembers_compact (next :: rest) (by simp) h.2)
    simpa only [compactMembers, writtenMembers, String.toList_append, String.reduceToList, List.append_assoc,
      List.cons_append, List.nil_append] using hmore

end

theorem blanks_indent (level : Nat) : Blanks (indent level).toList := by
  intro c hc
  simp only [indent, String.toList_ofList, List.mem_replicate] at hc
  rw [hc.2]
  decide

theorem blanks_line {cs : List Char} (h : Blanks cs) : Blanks ('\n' :: cs) := by
  intro c hc
  rcases List.mem_cons.1 hc with rfl | hc
  · decide
  · exact h c hc

mutual

theorem spelled_pretty (level : Nat) : (v : Json) → v.Printable →
    Spelled v.written (v.prettyAt level).toList
  | .null, _ => .null
  | .bool _, _ => .bool
  | .number _, h => spelled_number h
  | .string _, _ => .string
  | .array items, h => by
    cases items with
    | nil => simpa only [prettyAt, written, writtenItems, String.reduceToList] using Spelled.noItems
    | cons item rest =>
      have hitems := spelledItems_pretty (level + 1) (item :: rest) (by simp) h
        (blanks_line (blanks_indent level))
      simpa only [prettyAt, written, String.toList_append, String.reduceToList, List.cons_append,
        List.nil_append, List.append_assoc] using Spelled.array hitems
  | .object members, h => by
    cases members with
    | nil => simpa only [prettyAt, written, writtenMembers, String.reduceToList] using Spelled.noMembers
    | cons member rest =>
      have hmembers := spelledMembers_pretty (level + 1) (member :: rest) (by simp) h
        (blanks_line (blanks_indent level))
      simpa only [prettyAt, written, String.toList_append, String.reduceToList, List.cons_append,
        List.nil_append, List.append_assoc] using Spelled.object hmembers

/-- The lines of the items, from the end of the line before them to the end of the list. -/
theorem spelledItems_pretty (level : Nat) : (items : List Json) → items ≠ [] →
    PrintableItems items → {after : List Char} → Blanks after →
    SpelledItems (writtenItems items) ('\n' :: ((prettyItems level items).toList ++ after))
  | [], hne, _, _, _ => absurd rfl hne
  | [item], _, h, _, trailing => by
    have hlast := SpelledItems.last (blanks_line (blanks_indent level))
      (spelled_pretty level item h.1) trailing
    simpa only [prettyItems, writtenItems, String.toList_append, List.cons_append,
      List.append_assoc] using hlast
  | item :: next :: rest, _, h, _, trailing => by
    have hmore := SpelledItems.more (blanks_line (blanks_indent level))
      (spelled_pretty level item h.1)
      (spelledItems_pretty level (next :: rest) (by simp) h.2 trailing)
    simpa only [prettyItems, writtenItems, String.toList_append, String.reduceToList,
      List.append_assoc, List.cons_append, List.nil_append] using hmore

theorem spelledMembers_pretty (level : Nat) : (members : List (String × Json)) → members ≠ [] →
    PrintableMembers members → {after : List Char} → Blanks after →
    SpelledMembers (writtenMembers members) ('\n' :: ((prettyMembers level members).toList ++ after))
  | [], hne, _, _, _ => absurd rfl hne
  | [(name, value)], _, h, _, trailing => by
    have hlast := SpelledMembers.last name (blanks_line (blanks_indent level))
      (show Blanks [' '] by simp [Blanks, isBlank]) (spelled_pretty level value h.1) trailing
    simpa only [prettyMembers, writtenMembers, String.toList_append, String.reduceToList,
      List.append_assoc, List.cons_append, List.nil_append] using hlast
  | (name, value) :: next :: rest, _, h, _, trailing => by
    have hmore := SpelledMembers.more name (blanks_line (blanks_indent level))
      (show Blanks [' '] by simp [Blanks, isBlank]) (spelled_pretty level value h.1)
      (spelledMembers_pretty level (next :: rest) (by simp) h.2 trailing)
    simpa only [prettyMembers, writtenMembers, String.toList_append, String.reduceToList,
      List.append_assoc, List.cons_append, List.nil_append] using hmore

end

/-- A printed text of a printable value is read as what it says, unless it is nested too
deeply. -/
theorem read?_printed {v : Json} (h : v.Printable) {text : String}
    (printed : text = v.compact ∨ text = v.pretty) :
    read? text = if v.depth ≤ maxDepth then some v.written else none := by
  have hspelled : Spelled v.written text.toList := by
    rcases printed with rfl | rfl
    · exact spelled_compact v h
    · exact spelled_pretty 0 v h
  rw [read?_spelled hspelled, depth_written]

end Widgetry.Json
