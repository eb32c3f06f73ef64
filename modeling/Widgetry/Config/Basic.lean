import Widgetry.Error
import Widgetry.Json.Reader
import Widgetry.Project.Options
import Widgetry.Toml.Reader

/-!
Configurations of projects, in JSON or in TOML.
-/

namespace Widgetry

structure Config where
  outDir : Option String := none
  entries : Option (List String) := none
  asWidget : Option Bool := none
  excludeDirs : Option (List String) := none
  iosDir : Option String := none
  androidDir : Option String := none
  kotlinPackage : Option String := none

namespace Config

/-- The names under which a configuration is looked for, in order. -/
def fileNames : List String := ["brik.config.toml", "brik.config.json"]

/-- The fields of a configuration; each may be missing or null. -/
def fields : List (Decoder.Field Config) :=
  [Decoder.nullable "out_dir" Decoder.string fun a s => { s with outDir := a },
   Decoder.nullable "entries" (Decoder.list Decoder.string) fun a s => { s with entries := a },
   Decoder.nullable "as_widget" Decoder.bool fun a s => { s with asWidget := a },
   Decoder.nullable "exclude_dirs" (Decoder.list Decoder.string) fun a s =>
     { s with excludeDirs := a },
   Decoder.nullable "ios_dir" Decoder.string fun a s => { s with iosDir := a },
   Decoder.nullable "android_dir" Decoder.string fun a s => { s with androidDir := a },
   Decoder.nullable "kotlin_package" Decoder.string fun a s => { s with kotlinPackage := a }]

/-- Decodes a configuration. A list of its fields has to be complete. -/
def decode? (value : Json) : Option Config :=
  match value with
  | .array items =>
    if items.length = fields.length then
      (Decoder.record "a configuration" fields {} .inPlace value).toOption
    else none
  | value => (Decoder.record "a configuration" fields {} .inPlace value).toOption

/-- The configuration of a text; the name of its file tells the format. -/
def parse (extension : Option String) (text : String) : Except FormatFault Config :=
  match extension with
  | some "json" =>
    match (Json.read? text).bind decode? with
    | some config => .ok config
    | none => .error .jsonConfig
  | some "toml" =>
    match (Toml.read? text).bind decode? with
    | some config => .ok config
    | none => .error .tomlConfig
  | _ => .error .unknownConfig

def load (disk : Disk) (path : Path) : Except Error Config :=
  match disk.readText path with
  | .error fault => .error (.unreadableConfig path fault)
  | .ok text => (parse path.extension? text).mapError .format

/-- The first configuration that a folder has. -/
def discover (disk : Disk) (root : Path) : Except Error (Option Config) :=
  match (fileNames.map root.join).find? disk.isFile with
  | some path => (load disk path).map some
  | none => .ok none

/-- Options with what a configuration says. -/
def apply (config : Config) (options : Options) : Options :=
  { options with
    outDir := config.outDir.getD options.outDir
    entries := config.entries.or options.entries
    asWidget := config.asWidget.getD options.asWidget
    excludeDirs := options.excludeDirs ++ config.excludeDirs.getD [] }

end Config

end Widgetry
