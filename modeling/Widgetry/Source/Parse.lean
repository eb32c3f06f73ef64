import Widgetry.Source.Grammar.Statements

/-!
Reading whole files: the productions tied together, and the dialect that a file's name stands for.
-/

namespace Widgetry.Source

namespace Grammar

/-- The productions tied together to a depth of nesting. -/
def ofDepth : Nat → Grammar
  | 0 => stuck
  | depth + 1 =>
    { fuel := depth + 1
      assignment := fun allowResult s => assignmentRule (ofDepth depth) allowResult s
      binary := fun rank s => binaryRule (ofDepth depth) rank s
      unary := fun s => unaryRule (ofDepth depth) s
      leftHand := fun s => leftHandRule (ofDepth depth) s
      type := fun s => typeRule (ofDepth depth) s
      typeOperator := fun s => typeOperatorRule (ofDepth depth) s
      binding := fun s => bindingRule (ofDepth depth) s
      markup := fun s => markupRule (ofDepth depth) s
      statement := fun s => statementRule (ofDepth depth) s }

/-- The byte at which a statement starts. Decorators before an export do not belong to it. -/
def statementStart (g : Grammar) : Parser Nat := do
  let here ← place
  if ← isMark "@" then
    let exported ← peek do
      let _ ← decorators g
      require (← isWord "export")
      place
    return (exported.getD here).offset
  return here.offset

def program (g : Grammar) : Parser Program := do
  skipDirectives g
  let statements ← many g.fuel do
    if (← token) == .finish then return none
    let start ← statementStart g
    return some ⟨start, ← g.statement⟩
  return statements

end Grammar

/-- Skips the line that tells a shell how to run a file. -/
def skipShellLine (cursor : Cursor) : Cursor :=
  match cursor.rest with
  | '#' :: '!' :: _ => Trivia.lineEnd cursor
  | _ => cursor

/-- The statements of a file, when its text belongs to the dialect. -/
def parse? (dialect : Dialect) (text : String) : Option Program := do
  let start := skipShellLine (Cursor.ofText text)
  let state : Grammar.State :=
    { dialect
      context := { allowAwait := dialect.module, ambient := dialect.declarations }
      current := Lexer.next (!dialect.module) start
      lastEnd := 0
      flawed := false
      initializers := 0
      exported := [] }
  let (statements, final) ← (Grammar.ofDepth (8 * (text.length + 2))).program state
  if final.flawed || final.initializers != 0 then none else some statements

end Widgetry.Source
