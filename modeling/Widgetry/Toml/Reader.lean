import Widgetry.Toml.Scalar
import Widgetry.Toml.Table

/-!
Reading TOML documents: keys, lists, inline tables, and the lines of a document.
-/

namespace Widgetry.Toml

/-! ## Keys -/

def isKeyChar (c : Char) : Bool := c.isAlphanum || c = '_' || c = '-'

/-- One part of a key: bare or in quotes. -/
def keyPart? (cs : List Char) : Read String :=
  match cs with
  | '"' :: _ | '\x27' :: _ => shortText? cs
  | _ =>
    let bare := cs.takeWhile isKeyChar
    if bare.isEmpty then none else some (String.ofList bare, cs.drop bare.length)

/-- The greatest number of parts of a key, and of levels of lists and tables. -/
def maxDepth : Nat := 79

/-- The parts of a key with points between them; blanks may stand around each. -/
def keyParts? : Nat → List Char → Read (List String)
  | 0, _ => none
  | fuel + 1, cs =>
    match keyPart? (cs.dropWhile isSpace) with
    | none => none
    | some (part, rest) =>
      match rest.dropWhile isSpace with
      | '.' :: rest =>
        match keyParts? fuel rest with
        | some (parts, rest) => some (part :: parts, rest)
        | none => none
      | rest => some ([part], rest)

/-- A key: the path to its table, and its name there. -/
def key? (cs : List Char) : Read (List String × String) :=
  match keyParts? maxDepth cs with
  | some (parts, rest) => parts.getLast?.map fun name => ((parts.dropLast, name), rest)
  | none => none

/-! ## Values -/

/-- Skips a comment up to the end of its line; control characters are not allowed in it. -/
def comment? : List Char → Option (List Char)
  | '#' :: rest =>
    let rest := rest.dropWhile isInline
    if rest.isEmpty || (newline? rest).isSome then some rest else none
  | cs => some cs

/-- Skips blanks, ends of lines and comments. -/
def skipLines? : Nat → List Char → Option (List Char)
  | 0, _ => none
  | fuel + 1, cs =>
    match cs with
    | [] => some []
    | c :: rest =>
      if isSpace c then skipLines? fuel rest
      else if c = '#' then (comment? (c :: rest)).bind (skipLines? fuel)
      else
        match newline? (c :: rest) with
        | some rest => skipLines? fuel rest
        | none => some (c :: rest)

mutual

/-- A value; `depth` bounds the levels of lists and tables. -/
def value? : Nat → Nat → List Char → Read Json
  | 0, _, _ => none
  | fuel + 1, depth, cs =>
    match cs, depth with
    | '[' :: _, 0 | '\x7b' :: _, 0 => none
    | '[' :: rest, depth + 1 =>
      match items? fuel depth rest with
      | some (items, rest) => some (.array items, rest)
      | none => none
    | '\x7b' :: rest, depth + 1 =>
      match rest.dropWhile isSpace with
      | '\x7d' :: rest => some (.object [], rest)
      | rest =>
        match pairs? fuel depth [] rest with
        | some (table, rest) => some (.object (itemsToJson table), rest)
        | none => none
    | cs, _ => scalar? cs

/-- The items of a list up to its closing bracket; a comma may stand behind the last one. -/
def items? : Nat → Nat → List Char → Read (List Json)
  | 0, _, _ => none
  | fuel + 1, depth, cs =>
    match skipLines? (cs.length + 1) cs with
    | none => none
    | some (']' :: rest) => some ([], rest)
    | some cs =>
      match value? fuel depth cs with
      | none => none
      | some (item, rest) =>
        match skipLines? (rest.length + 1) rest with
        | some (']' :: rest) => some ([item], rest)
        | some (',' :: rest) =>
          match items? fuel depth rest with
          | some (items, rest) => some (item :: items, rest)
          | none => none
        | _ => none

/-- The pairs of an inline table up to its closing brace, all on one line. -/
def pairs? : Nat → Nat → Table → List Char → Read Table
  | 0, _, _, _ => none
  | fuel + 1, depth, table, cs =>
    match key? cs with
    | some ((path, name), '=' :: rest) =>
      match value? fuel depth (rest.dropWhile isSpace) with
      | none => none
      | some (value, rest) =>
        match insert path name value table, rest.dropWhile isSpace with
        | some table, '\x7d' :: rest => some (table, rest)
        | some table, ',' :: rest => pairs? fuel depth table rest
        | _, _ => none
    | _ => none

end

/-! ## Documents -/

/-- What may follow on a line: blanks and a comment. -/
def lineRest? (cs : List Char) : Option (List Char) :=
  match comment? (cs.dropWhile isSpace) with
  | some [] => some []
  | some rest => newline? rest
  | none => none

/-- A document while it is read: its tables, and the one that lines go into. -/
structure Document where
  table : Table := []
  current : List String := []

/-- Adds a pair to the current table. -/
def Document.add (document : Document) (path : List String) (name : String) (value : Json) :
    Option Document := do
  let add (_ : Bool) (table : Table) : Option Table := insert path name value table
  let table ← descend false add false document.current document.table
  return { document with table }

/-- One line of a document. -/
def line? (document : Document) (cs : List Char) : Option (Document × List Char) :=
  match cs with
  | '[' :: '[' :: rest =>
    match key? rest with
    | some ((path, name), ']' :: ']' :: rest) => do
      let table ← startElement path name document.table
      return (⟨table, path ++ [name]⟩, ← lineRest? rest)
    | _ => none
  | '[' :: rest =>
    match key? rest with
    | some ((path, name), ']' :: rest) => do
      let table ← startTable path name document.table
      return (⟨table, path ++ [name]⟩, ← lineRest? rest)
    | _ => none
  | cs =>
    match key? cs with
    | some ((path, name), '=' :: rest) => do
      let (value, rest) ← value? (rest.length + 1) maxDepth (rest.dropWhile isSpace)
      return (← document.add path name value, ← lineRest? rest)
    | _ => none

def lines? : Nat → Document → List Char → Option Document
  | 0, _, _ => none
  | fuel + 1, document, cs =>
    match skipLines? (cs.length + 1) cs with
    | none => none
    | some [] => some document
    | some cs =>
      match line? document cs with
      | some (document, rest) => lines? fuel document rest
      | none => none

/-- The mark at the start of a text that tells its encoding. -/
def dropMark : List Char → List Char
  | c :: rest => if c.toNat = 0xFEFF then rest else c :: rest
  | [] => []

/-- The table that a document holds. -/
def read? (text : String) : Option Json :=
  let cs := dropMark text.toList
  (lines? (cs.length + 1) {} cs).map fun document => .object (itemsToJson document.table)

end Widgetry.Toml
