import Widgetry.Decimal.Numeral

/-!
Phrases of generated code. A phrase is made of words, numbers, quoted texts, notes and bracketed
groups, so that its brackets always match and a text inside quotes stays there.
-/

namespace Widgetry.Code

/-! ## Quoting -/

/-- How texts are quoted: in some languages a dollar sign has a meaning inside quotes. -/
structure Quoting where
  escapesDollar : Bool
deriving DecidableEq, Repr

/-- A character inside quotes. -/
def Quoting.escapeChar (quoting : Quoting) (c : Char) : List Char :=
  if c = '\\' then ['\\', '\\']
  else if c = '"' then ['\\', '"']
  else if c = '\n' then ['\\', 'n']
  else if c = '\r' then ['\\', 'r']
  else if c = '\t' then ['\\', 't']
  else if quoting.escapesDollar && c = '$' then ['\\', '$']
  else [c]

/-- A text as it stands between quotes. -/
def Quoting.escape (quoting : Quoting) (text : String) : String :=
  String.ofList (text.toList.flatMap quoting.escapeChar)

/-- A text as it stands in a comment of one line. -/
def oneLine (text : String) : String :=
  String.ofList (text.toList.map fun c => if c = '\r' || c = '\n' then ' ' else c)

/-! ## Fragments -/

inductive Bracket where
  | round
  | square
  | curly
deriving DecidableEq, Repr

def Bracket.opening : Bracket → String
  | .round => "("
  | .square => "["
  | .curly => "\x7b"

def Bracket.closing : Bracket → String
  | .round => ")"
  | .square => "]"
  | .curly => "\x7d"

inductive Fragment where
  /-- Code as it stands, complete in itself. -/
  | word (text : String)
  /-- A number with its unit behind it. -/
  | number (value : Float) (unit : String)
  /-- A text in quotes. -/
  | quoted (text : String)
  /-- A comment inside a line. -/
  | note (text : String)
  | group (bracket : Bracket) (inner : List Fragment)
deriving Repr

abbrev Phrase := List Fragment

namespace Phrase

mutual

def fragmentText (quoting : Quoting) : Fragment → String
  | .word text => text
  | .number value unit => Double.numeral value ++ unit
  | .quoted text => "\"" ++ quoting.escape text ++ "\""
  | .note text => "/* " ++ text ++ " */"
  | .group bracket inner => bracket.opening ++ phraseText quoting inner ++ bracket.closing

/-- The text of a phrase. -/
def phraseText (quoting : Quoting) : List Fragment → String
  | [] => ""
  | fragment :: rest => fragmentText quoting fragment ++ phraseText quoting rest

end

def word (text : String) : Phrase := [.word text]

/-- A number; the sign of a zero is not written. -/
def measure (value : Float) (unit : String) : Phrase := [.number (Double.unsigned value) unit]

def quoted (text : String) : Phrase := [.quoted text]

/-- Phrases with a separator between each two of them. -/
def joined (separator : String) : List Phrase → Phrase
  | [] => []
  | [last] => last
  | first :: rest => first ++ .word separator :: joined separator rest

/-- A name with arguments. -/
def call (name : String) (arguments : List Phrase) : Phrase :=
  [.word name, .group .round (joined ", " arguments)]

/-- A phrase in braces with a blank on both sides. -/
def braced (inner : Phrase) : Phrase := [.group .curly (.word " " :: inner ++ [.word " "])]

end Phrase

end Widgetry.Code
