import Widgetry.Compile
import Widgetry.Files.Disk

/-!
The errors of projects and commands, with their codes and messages.
-/

namespace Widgetry

/-- A text that is not in its format. -/
inductive FormatFault where
  /-- The list of artifacts at a path. -/
  | index (path : Path)
  | jsonConfig
  | tomlConfig
  /-- A configuration in a file of another kind. -/
  | unknownConfig

def FormatFault.message : FormatFault → String
  | .index path => path.text ++ ": the text is not a list of artifacts"
  | .jsonConfig => "Invalid JSON config: the text is not a configuration"
  | .tomlConfig => "Invalid TOML config: the text is not a configuration"
  | .unknownConfig => "Config file must be .json or .toml format"

inductive Error where
  | io (fault : FileFault)
  | folderNotFound (path : Path)
  | unreadable (path : Path) (fault : FileFault)
  | unreadableConfig (path : Path) (fault : FileFault)
  | malformed (file : String)
  | refused (refusal : Root.Refusal)
  | format (fault : FormatFault)
  /-- Some of the files of a project have errors. -/
  | failed (count total : Nat)

namespace Error

def ofCompileFault : CompileFault → Error
  | .malformed file => .malformed file
  | .refused refusal => .refused refusal

/-- What is said about a text that is not in the dialect of its file. -/
def malformedReason : String := "unrecoverable syntax error"

def message : Error → String
  | .io fault => "IO error: " ++ fault.message
  | .folderNotFound path => "File not found: " ++ path.text
  | .unreadable path fault => s!"File not found: {path.text}: {fault.message}"
  | .unreadableConfig path fault => s!"File not found: Config file {path.text}: {fault.message}"
  | .malformed file => s!"Parse error in {file}: {malformedReason}"
  | .refused refusal => refusal.message
  | .format fault => "Invalid format: " ++ fault.message
  | .failed count total => s!"{count} of {total} files failed to compile"

/-- The stable code that users see next to a message. -/
def code : Error → String
  | .io _ | .folderNotFound _ | .unreadable .. | .unreadableConfig .. => "BR104"
  | .malformed _ => "BR002"
  | .refused (.invalid ..) => "BR008"
  | .refused .notJson | .format _ => "BR101"
  | .refused (.unsupportedVersion ..) => "BR302"
  | .failed .. => "BR001"

end Error

end Widgetry
