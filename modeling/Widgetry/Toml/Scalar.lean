import Widgetry.Decimal.Reading
import Widgetry.Json.Basic
import Widgetry.Text.Hex

/-!
The scalars of TOML: texts in four kinds of quotes, numbers, and dates. A date is an object that
holds its text.
-/

namespace Widgetry.Toml

/-- What is read, and the rest of the text. -/
abbrev Read (α : Type) := Option (α × List Char)

def isSpace (c : Char) : Bool := c = ' ' || c = '\t'

/-- A character that may stand in a line: no control character but the tab. -/
def isInline (c : Char) : Bool := c = '\t' || (0x20 ≤ c.toNat && c.toNat != 0x7F)

/-- The end of a line. -/
def newline? : List Char → Option (List Char)
  | '\n' :: rest => some rest
  | '\r' :: '\n' :: rest => some rest
  | _ => none

/-! ## Texts -/

/-- Exactly `count` hexadecimal digits. -/
def hexDigits? : Nat → Nat → List Char → Read Nat
  | 0, value, cs => some (value, cs)
  | count + 1, value, c :: rest =>
    match Hex.value? c with
    | some digit => hexDigits? count (16 * value + digit) rest
    | none => none
  | _ + 1, _, [] => none

/-- A character by its number. -/
def codePoint? (count : Nat) (cs : List Char) : Read Char :=
  match hexDigits? count 0 cs with
  | some (n, rest) => if n.isValidChar then some (Char.ofNat n, rest) else none
  | none => none

/-- What follows a backslash. -/
def escape? : List Char → Read Char
  | 'b' :: rest => some ('\x08', rest)
  | 't' :: rest => some ('\t', rest)
  | 'n' :: rest => some ('\n', rest)
  | 'f' :: rest => some ('\x0c', rest)
  | 'r' :: rest => some ('\r', rest)
  | '"' :: rest => some ('"', rest)
  | '\\' :: rest => some ('\\', rest)
  | 'u' :: rest => codePoint? 4 rest
  | 'U' :: rest => codePoint? 8 rest
  | _ => none

/-- A text in double quotes on one line, after its first quote. -/
def basicText? : Nat → List Char → List Char → Read String
  | 0, _, _ => none
  | _ + 1, found, '"' :: rest => some (String.ofList found.reverse, rest)
  | fuel + 1, found, '\\' :: rest =>
    match escape? rest with
    | some (c, rest) => basicText? fuel (c :: found) rest
    | none => none
  | fuel + 1, found, c :: rest =>
    if isInline c then basicText? fuel (c :: found) rest else none
  | _ + 1, _, [] => none

/-- A text in single quotes on one line, after its first quote. -/
def literalText? : List Char → List Char → Read String
  | found, '\x27' :: rest => some (String.ofList found.reverse, rest)
  | found, c :: rest => if isInline c then literalText? (c :: found) rest else none
  | _, [] => none

/-- A text of several lines may end in one or two quotes before the three that close it. -/
def closing? (quote : Char) (found : List Char) (cs : List Char) : Read String :=
  let quotes := cs.takeWhile (· = quote)
  if quotes.length < 3 then none
  else if 5 < quotes.length then none
  else some (String.ofList (List.replicate (quotes.length - 3) quote ++ found).reverse,
    cs.drop quotes.length)

/-- Skips blanks and ends of lines. -/
def skipBlankLines : Nat → List Char → List Char
  | 0, cs => cs
  | fuel + 1, cs =>
    match cs with
    | c :: rest =>
      if isSpace c then skipBlankLines fuel rest
      else
        match newline? (c :: rest) with
        | some rest => skipBlankLines fuel rest
        | none => c :: rest
    | [] => []

/-- The rest of a line that is only blank, after a backslash at its end. -/
def lineEnd? (cs : List Char) : Option (List Char) :=
  (newline? (cs.dropWhile isSpace)).map fun rest => skipBlankLines (rest.length + 1) rest

/-- A text of several lines, after its first quotes; `quote` tells which kind it is. -/
def longText? (quote : Char) : Nat → List Char → List Char → Read String
  | 0, _, _ => none
  | fuel + 1, found, c :: rest =>
    if c = quote then
      match closing? quote found (c :: rest) with
      | some result => some result
      | none =>
        if (rest.takeWhile (· = quote)).length < 2 then longText? quote fuel (c :: found) rest
        else none
    else if c = '\\' && quote = '"' then
      match lineEnd? rest with
      | some rest => longText? quote fuel found rest
      | none =>
        match escape? rest with
        | some (c, rest) => longText? quote fuel (c :: found) rest
        | none => none
    else
      match newline? (c :: rest) with
      | some rest => longText? quote fuel ('\n' :: found) rest
      | none => if isInline c then longText? quote fuel (c :: found) rest else none
  | _ + 1, _, [] => none

/-- The end of a line right after the quotes that open a text does not belong to it. -/
def dropFirstNewline (cs : List Char) : List Char := (newline? cs).getD cs

/-- A text on one line, as keys have it too. -/
def shortText? : List Char → Read String
  | '"' :: rest => basicText? (rest.length + 1) [] rest
  | '\x27' :: rest => literalText? [] rest
  | _ => none

def text? : List Char → Read String
  | '"' :: '"' :: '"' :: rest => longText? '"' (rest.length + 1) [] (dropFirstNewline rest)
  | '\x27' :: '\x27' :: '\x27' :: rest =>
    longText? '\x27' (rest.length + 1) [] (dropFirstNewline rest)
  | cs => shortText? cs

/-! ## Numbers -/

/-- Digits with single underscores between them. -/
def digits? (isDigit : Char → Bool) (cs : List Char) : Read (List Char) :=
  let run := cs.takeWhile fun c => isDigit c || c = '_'
  let isSplit := (run.zip run.tail).any fun (a, b) => a = '_' && b = '_'
  if run.head?.any isDigit && run.getLast?.any isDigit && !isSplit then
    some (run.filter isDigit, cs.drop run.length)
  else none

def sign : List Char → Bool × List Char
  | '-' :: rest => (true, rest)
  | '+' :: rest => (false, rest)
  | cs => (false, cs)

/-- The value of digits in a base. -/
def inBase (base : Nat) (digits : List Char) : Nat :=
  digits.foldl (fun n c => base * n + (Hex.value? c).getD 0) 0

/-- A whole number of another base. -/
def based? : List Char → Read Json
  | '0' :: mark :: rest =>
    let base := if mark = 'x' then 16 else if mark = 'o' then 8 else if mark = 'b' then 2 else 0
    if base = 0 then none
    else
      match digits? (fun c => (Hex.value? c).any (· < base)) rest with
      | some (digits, rest) =>
        if inBase base digits < 0x8000000000000000 then
          some (.number (.integer (inBase base digits)), rest)
        else none
      | none => none
  | _ => none

/-- The digits of a whole number, without zeros in front. -/
def wholeDigits? (cs : List Char) : Read (List Char) :=
  match digits? Char.isDigit cs with
  | some ('0' :: _ :: _, _) => none
  | found => found

/-- The digits behind a point. -/
def places? : List Char → Read (List Char)
  | '.' :: rest => digits? Char.isDigit rest
  | _ => none

/-- A power of ten. -/
def power? : List Char → Read Int
  | c :: rest =>
    if c = 'e' || c = 'E' then
      let (negative, rest) := sign rest
      match digits? Char.isDigit rest with
      | some (digits, rest) =>
        let n : Int := inBase 10 digits
        some (if negative then -n else n, rest)
      | none => none
    else none
  | [] => none

/-- A number with a point or a power of ten; one that is too great is refused. -/
def float? (negative : Bool) (digits : List Char) (exponent : Int) : Option Json :=
  let x := Decimal.toFloat ⟨inBase 10 digits, exponent⟩
  if negative then some (.number (.float (-x)))
  else if x.isInf then none
  else some (.number (.float x))

/-- A number with digits in base ten. -/
def decimal? (cs : List Char) : Read Json :=
  let (negative, cs) := sign cs
  match wholeDigits? cs with
  | none => none
  | some (whole, rest) =>
    let fraction := places? rest
    let (digits, afterPlaces) :=
      match fraction with
      | some (places, rest) => (places, rest)
      | none => ([], rest)
    match power? afterPlaces with
    | some (power, rest) =>
      (float? negative (whole ++ digits) (power - digits.length)).map fun value => (value, rest)
    | none =>
      if fraction.isSome then
        (float? negative (whole ++ digits) (-(digits.length : Int))).map fun value =>
          (value, afterPlaces)
      else
        let n : Int := if negative then -(inBase 10 whole : Int) else inBase 10 whole
        if -0x8000000000000000 ≤ n && n < 0x8000000000000000 then some (.number (.integer n), rest)
        else none

/-- What starts with a word. -/
def afterWord? (word : String) (cs : List Char) : Option (List Char) :=
  if word.toList.isPrefixOf cs then some (cs.drop word.length) else none

/-- Infinity and what is not a number. -/
def special? (cs : List Char) : Read Json :=
  let (negative, rest) := sign cs
  match afterWord? "inf" rest with
  | some rest => some (.number (.float (Double.toFloat (.infinite negative))), rest)
  | none => (afterWord? "nan" rest).map fun rest => (.number (.float (Double.toFloat .nan)), rest)

/-! ## Dates -/

/-- Exactly `count` digits whose value lies in a range. -/
def field? (count least greatest : Nat) (cs : List Char) : Read Nat :=
  let digits := cs.take count
  let n := inBase 10 digits
  if digits.length = count && digits.all Char.isDigit && least ≤ n && n ≤ greatest then
    some (n, cs.drop count)
  else none

def mark? (mark : Char) : List Char → Option (List Char)
  | c :: rest => if c = mark then some rest else none
  | [] => none

def daysIn (year month : Nat) : Nat :=
  if month = 2 then
    if year % 4 = 0 && (year % 100 != 0 || year % 400 = 0) then 29 else 28
  else if month = 4 || month = 6 || month = 9 || month = 11 then 30
  else 31

def day? (cs : List Char) : Option (List Char) := do
  let (year, cs) ← field? 4 0 9999 cs
  let cs ← mark? '-' cs
  let (month, cs) ← field? 2 1 12 cs
  let cs ← mark? '-' cs
  let (_, cs) ← field? 2 1 (daysIn year month) cs
  return cs

def time? (cs : List Char) : Option (List Char) := do
  let (_, cs) ← field? 2 0 23 cs
  let cs ← mark? ':' cs
  let (_, cs) ← field? 2 0 59 cs
  let cs ← mark? ':' cs
  let (_, cs) ← field? 2 0 60 cs
  match cs with
  | '.' :: rest =>
    guard (rest.head?.any Char.isDigit)
    return rest.dropWhile Char.isDigit
  | cs => return cs

/-- The distance of a time from universal time; it may be missing. -/
def offset? : List Char → Option (List Char)
  | c :: rest =>
    if c = 'Z' || c = 'z' then some rest
    else if c = '+' || c = '-' then do
      let (_, cs) ← field? 2 0 23 rest
      let cs ← mark? ':' cs
      let (_, cs) ← field? 2 0 59 cs
      return cs
    else some (c :: rest)
  | [] => some []

/-- A time behind a day. -/
def timeOfDay? : List Char → Option (List Char)
  | c :: rest =>
    if c = 'T' || c = 't' then (time? rest).bind offset?
    else if c = ' ' && rest.head?.any Char.isDigit then (time? rest).bind offset?
    else some (c :: rest)
  | [] => some []

/-- A day, a time, or both. -/
def date? (cs : List Char) : Read Json :=
  let rest := (day? cs).bind timeOfDay? <|> time? cs
  rest.map fun rest =>
    (.object [("date", .string (String.ofList (cs.take (cs.length - rest.length))))], rest)

/-! ## Scalars -/

def number? (cs : List Char) : Read Json := date? cs <|> based? cs <|> special? cs <|> decimal? cs

/-- A value that is neither a list nor a table. -/
def scalar? (cs : List Char) : Read Json :=
  match cs with
  | [] => none
  | c :: _ =>
    if c = '"' || c = '\x27' then (text? cs).map fun (text, rest) => (.string text, rest)
    else if c = 't' then (afterWord? "true" cs).map fun rest => (.bool true, rest)
    else if c = 'f' then (afterWord? "false" cs).map fun rest => (.bool false, rest)
    else if c.isDigit || c = '+' || c = '-' || c = 'i' || c = 'n' then number? cs
    else none

end Widgetry.Toml
