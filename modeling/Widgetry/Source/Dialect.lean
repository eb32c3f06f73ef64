import Widgetry.Files.Path
import Widgetry.Source.Grammar.Basic

/-!
The dialect that the name of a file stands for.
-/

namespace Widgetry.Source.Dialect

/-- The file only declares what is defined elsewhere. -/
def isDeclarationName (name : String) : Bool :=
  ((Path.split '.' name).reverse.take 3).contains "d"

/-- The dialect of an extension. -/
def ofExtension? : String → Option Dialect
  | "tsx" => some {}
  | "ts" | "mts" => some { markup := false }
  | "cts" => some { markup := false, module := false }
  | "jsx" => some { typed := false }
  | "js" | "mjs" => some { typed := false, markup := false }
  | "cjs" => some { typed := false, markup := false, module := false }
  | _ => none

/-- The dialect of a file; types and markup are allowed in a file of any other name. -/
def ofPath (path : Path) : Dialect :=
  match path.extension?.bind ofExtension? with
  | some dialect =>
    let declares := dialect.typed && !dialect.markup && path.fileName?.any isDeclarationName
    { dialect with declarations := declares }
  | none => {}

end Widgetry.Source.Dialect
