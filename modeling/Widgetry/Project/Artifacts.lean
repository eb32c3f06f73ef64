import Widgetry.Code.Basic
import Widgetry.Error
import Widgetry.Json.Printer
import Widgetry.Json.Reader
import Widgetry.Root.Encoding

/-!
Artifacts: each root in a file of its own, and a list of the roots in the order in which they were
compiled. Generated code is written here too.
-/

namespace Widgetry

/-- Work on a disk; what was done before an error stays done. -/
abbrev Work := ExceptT Error (StateM Disk)

namespace Work

def disk : Work Disk := fun disk => (.ok disk, disk)

/-- A change that is made wholly or not at all. -/
def change (action : Disk → Except FileFault Disk) : Work Unit := fun disk =>
  match action disk with
  | .ok changed => (.ok (), changed)
  | .error fault => (.error (.io fault), disk)

/-- A change that may be left half done. -/
def attempt (action : Disk → Except FileFault Unit × Disk) : Work Unit := fun disk =>
  match action disk with
  | (.ok _, changed) => (.ok (), changed)
  | (.error fault, changed) => (.error (.io fault), changed)

def createFolders (path : Path) : Work Unit := attempt fun disk => disk.createFolders path

def writeText (path : Path) (text : String) : Work Unit := change fun disk => disk.writeText path text

end Work

/-! ## Artifacts -/

def indexName : String := "index.json"

def artifactPath (dir : Path) (rootId : String) : Path := dir.join (rootId ++ ".json")

/-- The list of some roots. -/
def indexJson (roots : List Root) : Json :=
  .object [("count", Json.ofNat roots.length),
    ("roots", .array (roots.map fun root => .string root.rootId))]

def writeRoots (dir : Path) : List Root → Work (List Path)
  | [] => return []
  | root :: rest => do
    Work.writeText (artifactPath dir root.rootId) root.toJson.pretty
    return artifactPath dir root.rootId :: (← writeRoots dir rest)

/-- Writes roots and their list; gives the paths of what was written. -/
def writeArtifacts (roots : List Root) (dir : Path) : Work (List Path) := do
  Work.createFolders dir
  let written ← writeRoots dir roots
  Work.writeText (dir.join indexName) (indexJson roots).pretty
  return written ++ [dir.join indexName]

/-- The ids in a list of roots. Its count is not used, but it has to be there. -/
structure ArtifactIndex where
  count : Nat := 0
  roots : List String := []

/-- A number of things. -/
def countDecoder : Decoder Nat := fun _ value =>
  match value with
  | .number (.integer n) =>
    if 0 ≤ n then .ok n.toNat else Decoder.fail (.invalidValue (.integer n) "a count")
  | other => Decoder.wrongType other "a count"

def ArtifactIndex.decode : Decoder ArtifactIndex :=
  Decoder.record "a list of artifacts"
    [Decoder.required "count" countDecoder fun a s => { s with count := a },
     Decoder.required "roots" (Decoder.list Decoder.string) fun a s => { s with roots := a }] {}

def ArtifactIndex.read? (text : String) : Option ArtifactIndex :=
  (Json.read? text).bind fun value => (ArtifactIndex.decode .inPlace value).toOption

/-- The artifacts of a folder: those in its list, or else all that look like one. -/
def artifactFiles (disk : Disk) (dir : Path) : Except Error (List Path) :=
  let index := dir.join indexName
  if disk.isFile index then
    match disk.readText index with
    | .error fault => .error (.io fault)
    | .ok text =>
      match ArtifactIndex.read? text with
      | some found => .ok (found.roots.map (artifactPath dir))
      | none => .error (.format (.index index))
  else
    match disk.entries dir with
    | .error fault => .error (.io fault)
    | .ok entries =>
      let paths := entries.map fun entry => dir.join entry.1
      let found := paths.filter fun path => path.extension? = some "json"
      .ok (found.mergeSort fun a b => !b.before a)

def readRoot (disk : Disk) (path : Path) : Except Error Root :=
  match disk.readText path with
  | .error fault => .error (.unreadable path fault)
  | .ok text => (Root.parse text).mapError .refused

/-- Reads back the roots of a folder. -/
def readArtifacts (disk : Disk) (dir : Path) : Except Error (List Root) := do
  if !disk.isFolder dir then throw (.folderNotFound dir)
  let files ← artifactFiles disk dir
  files.mapM (readRoot disk)

/-- Removes the artifacts; tells whether there were any. -/
def cleanArtifacts (dir : Path) : Work Bool := do
  let disk ← Work.disk
  if !disk.isThere dir then return false
  Work.attempt fun disk => disk.removeFolder dir
  return true

/-! ## Generated code -/

/-- Writes files below a folder, with the folders that they need. -/
def writeCode (dir : Path) : List CodeFile → Work (List Path)
  | [] => return []
  | file :: rest => do
    let path := dir.join file.path
    match path.parent? with
    | some parent => Work.createFolders parent
    | none => pure ()
    Work.writeText path file.content
    return path :: (← writeCode dir rest)

end Widgetry
