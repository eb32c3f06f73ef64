import Widgetry.Error
import Widgetry.Project.Options

/-!
Finding the sources of a project: all files below its root whose names say that they hold markup,
apart from those in hidden and excluded folders.
-/

namespace Widgetry

/-- Folders that are never searched. -/
def excludedByDefault : List String := ["node_modules", "dist", "lib", "build", ".git", ".brik"]

/-- A folder below the root of a project that is searched. -/
def isSearched (excluded : List String) (name : String) : Bool :=
  !(excludedByDefault ++ excluded).contains name && !name.startsWith "."

/-- A file that can hold markup. -/
def isSource (path : Path) : Bool :=
  match path.extension? with
  | some extension => extension = "tsx" || extension = "jsx"
  | none => false

/-! ## Walks -/

/-- What a walk meets under a name. Links are not followed, so that nothing is looked for behind
them. -/
inductive Listing where
  | file
  /-- A link, or whatever else is neither a file nor a folder. -/
  | other
  | folder (entries : List (String × Listing))

mutual

/-- An entry as a walk meets it. -/
def Entry.listing : Entry → Listing
  | .file _ => .file
  | .folder entries => .folder (Entry.listings entries)

def Entry.listings : List (String × Entry) → List (String × Listing)
  | [] => []
  | (name, entry) :: rest => (name, entry.listing) :: Entry.listings rest

end

mutual

/-- The sources of an entry below the root. -/
def sourcesOf (excluded : List String) (folder : Path) (name : String) : Listing → List Path
  | .file => if isSource (folder.join name) then [folder.join name] else []
  | .other => []
  | .folder entries =>
    if isSearched excluded name then sourcesIn excluded (folder.join name) entries else []

/-- The sources of a folder. -/
def sourcesIn (excluded : List String) (folder : Path) : List (String × Listing) → List Path
  | [] => []
  | (name, entry) :: rest =>
    sourcesOf excluded folder name entry ++ sourcesIn excluded folder rest

end

/-- The sources of a folder in the order of their paths. -/
def sources (excluded : List String) (root : Path) (entries : List (String × Listing)) : List Path :=
  (sourcesIn excluded root entries).mergeSort fun a b => !b.before a

/-- All sources below a folder in the order of their paths. -/
def discover (disk : Disk) (root : Path) (excluded : List String) : Except Error (List Path) :=
  match disk.entries root with
  | .ok entries => .ok (sources excluded root (Entry.listings entries))
  | .error _ => .error (.folderNotFound root)

end Widgetry
