import Widgetry.Bag
import Widgetry.Files.Path

/-!
A tree of folders and files, seen from a working folder. Paths are followed step by step, so that
every folder on the way has to be there.
-/

namespace Widgetry

/-- Why something cannot be done with a path. -/
inductive FileFault where
  | missing
  | taken
  | notFolder
  | isFolder
  | notEmpty
  | invalidPath
  | notText
deriving DecidableEq, Repr

def FileFault.message : FileFault → String
  | .missing => "No such file or directory (os error 2)"
  | .taken => "File exists (os error 17)"
  | .notFolder => "Not a directory (os error 20)"
  | .isFolder => "Is a directory (os error 21)"
  | .invalidPath => "Invalid argument (os error 22)"
  | .notEmpty => "Directory not empty (os error 39)"
  | .notText => "stream did not contain valid UTF-8"

/-! ## Entries -/

inductive Entry where
  | file (content : ByteArray)
  | folder (entries : List (String × Entry))

instance : Inhabited Entry := ⟨.folder []⟩

namespace Entry

/-- What stands at a place inside an entry. -/
def get? : List String → Entry → Option Entry
  | [], entry => some entry
  | _ :: _, .file _ => none
  | name :: rest, .folder entries => (Bag.find? name entries).bind (get? rest)

/-- Puts an entry at a place whose folder is there. -/
def put : List String → Entry → Entry → Entry
  | [], _, value => value
  | _ :: _, .file content, _ => .file content
  | name :: rest, .folder entries, value =>
    .folder (Bag.put name (put rest ((Bag.find? name entries).getD (.folder [])) value) entries)

/-- Takes away what stands at a place. -/
def erase : List String → Entry → Entry
  | [], entry => entry
  | _ :: _, .file content => .file content
  | [name], .folder entries => .folder (entries.filter fun entry => entry.1 != name)
  | name :: next :: rest, .folder entries =>
    match Bag.find? name entries with
    | some entry => .folder (Bag.put name (erase (next :: rest) entry) entries)
    | none => .folder entries

end Entry

/-! ## Disks -/

/-- A tree and the place of the working folder in it. -/
structure Disk where
  tree : Entry := .folder []
  here : List String := []

namespace Disk

/-- Follows components from a place; every place on the way has to be a folder. -/
def follow (disk : Disk) : List String → List Path.Component → Except FileFault (List String)
  | place, [] => .ok place
  | place, component :: rest =>
    match disk.tree.get? place with
    | none => .error .missing
    | some (.file _) => .error .notFolder
    | some (.folder entries) =>
      match component with
      | .root => follow disk [] rest
      | .here => follow disk place rest
      | .up => follow disk place.dropLast rest
      | .name name =>
        match Bag.find? name entries with
        | some _ => follow disk (place ++ [name]) rest
        | none => .error .missing

/-- A path that ends in a slash or a point names a folder. -/
def namesFolder (path : Path) : Bool := path.segments.getLast?.any Path.isIdle

/-- The place of a path, and what stands there. -/
def locate (disk : Disk) (path : Path) : Except FileFault (List String × Entry) := do
  if path.text.isEmpty then throw .missing
  let place ← disk.follow disk.here path.components
  match disk.tree.get? place with
  | none => throw .missing
  | some (.file content) =>
    if namesFolder path then throw .notFolder
    return (place, .file content)
  | some (.folder entries) => return (place, .folder entries)

def isThere (disk : Disk) (path : Path) : Bool := (disk.locate path).isOk

def isFile (disk : Disk) (path : Path) : Bool :=
  match disk.locate path with
  | .ok (_, .file _) => true
  | _ => false

def isFolder (disk : Disk) (path : Path) : Bool :=
  match disk.locate path with
  | .ok (_, .folder _) => true
  | _ => false

/-- The entries of a folder. -/
def entries (disk : Disk) (path : Path) : Except FileFault (List (String × Entry)) :=
  match disk.locate path with
  | .ok (_, .folder entries) => .ok entries
  | .ok (_, .file _) => .error .notFolder
  | .error fault => .error fault

/-- The text of a file. -/
def readText (disk : Disk) (path : Path) : Except FileFault String :=
  match disk.locate path with
  | .ok (_, .file content) =>
    match String.fromUTF8? content with
    | some text => .ok text
    | none => .error .notText
  | .ok (_, .folder _) => .error .isFolder
  | .error fault => .error fault

/-- The place of the folder that the last component of a path stands in, and that component. -/
def placeOf (disk : Disk) (path : Path) :
    Except FileFault (List String × Path.Component) := do
  match path.components.reverse with
  | [] => throw .missing
  | last :: front =>
    let place ← disk.follow disk.here front.reverse
    match disk.tree.get? place with
    | none => throw .missing
    | some (.file _) => throw .notFolder
    | some (.folder _) => return (place, last)

/-- Writes a file, in place of the one that is there. -/
def write (disk : Disk) (path : Path) (content : ByteArray) : Except FileFault Disk := do
  match ← disk.placeOf path with
  | (place, .name name) =>
    match disk.tree.get? (place ++ [name]) with
    | some (.folder _) => throw .isFolder
    | some (.file _) =>
      if namesFolder path then throw .notFolder
      return { disk with tree := disk.tree.put (place ++ [name]) (.file content) }
    | none =>
      if namesFolder path then throw .isFolder
      return { disk with tree := disk.tree.put (place ++ [name]) (.file content) }
  | _ => throw .isFolder

def writeText (disk : Disk) (path : Path) (text : String) : Except FileFault Disk :=
  disk.write path text.toUTF8

/-- The last segment of a path that is not empty. -/
def lastSegment? (path : Path) : Option String :=
  (Path.dropLastWhile String.isEmpty path.segments).getLast?

/-- Makes one folder; the folder that it stands in has to be there. -/
def makeFolder (disk : Disk) (path : Path) : Except FileFault Disk :=
  if lastSegment? path = some "." then
    match disk.locate path with
    | .ok _ => .error .taken
    | .error fault => .error fault
  else
    match disk.placeOf path with
    | .error fault => .error fault
    | .ok (place, .name name) =>
      match disk.tree.get? (place ++ [name]) with
      | some _ => .error .taken
      | none => .ok { disk with tree := disk.tree.put (place ++ [name]) (.folder []) }
    | .ok _ => .error .taken

/-- Makes a folder and those that it stands in. What is made on the way stays. -/
def makeFolders : Nat → Path → Disk → Except FileFault Unit × Disk
  | 0, _, disk => (.error .missing, disk)
  | depth + 1, path, disk =>
    if path.components.isEmpty then (.ok (), disk)
    else
      let again (disk : Disk) : Except FileFault Unit × Disk :=
        match disk.makeFolder path with
        | .ok disk => (.ok (), disk)
        | .error fault => (if disk.isFolder path then .ok () else .error fault, disk)
      match disk.makeFolder path with
      | .ok disk => (.ok (), disk)
      | .error .missing =>
        match path.parent? with
        | none => (.error .missing, disk)
        | some parent =>
          -- Once the folders around it are made, the folder itself is tried again.
          match makeFolders depth parent disk with
          | (.ok _, disk) => again disk
          | (.error fault, disk) => (.error fault, disk)
      | .error fault => (if disk.isFolder path then .ok () else .error fault, disk)

/-- Makes all folders of a path. -/
def createFolders (disk : Disk) (path : Path) : Except FileFault Unit × Disk :=
  makeFolders (path.segments.length + 1) path disk

/-- Removes a folder with all that is in it. A folder that is named by a point is only emptied. -/
def removeFolder (disk : Disk) (path : Path) : Except FileFault Unit × Disk :=
  match disk.locate path with
  | .error fault => (.error fault, disk)
  | .ok (_, .file _) => (.error .notFolder, disk)
  | .ok (place, .folder _) =>
    let emptied : Disk := { disk with tree := disk.tree.put place (.folder []) }
    match lastSegment? path with
    | some "." => (.error .invalidPath, emptied)
    | some ".." => (.error .notEmpty, emptied)
    | _ =>
      match place with
      -- The top of the tree stays, whatever path leads to it.
      | [] => (.error .notEmpty, emptied)
      | _ => (.ok (), { disk with tree := disk.tree.erase place })

end Disk

mutual

/-- The files of an entry with their paths. -/
def Entry.filesFrom (path : String) : Entry → List (String × ByteArray)
  | .file content => [(path, content)]
  | .folder entries => Entry.filesOfAll path entries

def Entry.filesOfAll (path : String) : List (String × Entry) → List (String × ByteArray)
  | [] => []
  | (name, entry) :: rest => entry.filesFrom (path ++ "/" ++ name) ++ filesOfAll path rest

end

end Widgetry
