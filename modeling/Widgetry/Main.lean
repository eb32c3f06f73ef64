import Widgetry.Cli.Commands

/-!
The program on a real disk. What a command can see is first read into a tree, the command works on
that tree, and what it changed there is written back.
-/

namespace Widgetry.Cli

/-! ## The real disk -/

def placeText (place : List String) : String := "/" ++ "/".intercalate place

def isRealFolder (place : List String) : IO Bool := do
  ((← IO.currentDir) / placeText place).isDir

def isRealThere (place : List String) : IO Bool := do
  ((← IO.currentDir) / placeText place).pathExists

def realNames (place : List String) : IO (List String) := do
  let entries ← ((← IO.currentDir) / placeText place).readDir
  return entries.toList.map fun entry => entry.fileName

/-- The working folder. -/
def workingPlace : IO (List String) := do
  return ((← IO.currentDir).toString.splitOn "/").filter fun name => !name.isEmpty

/-! ## Reading -/

/-- A file whose content a command may ask for without naming it. -/
def isReadable (name : String) : Bool := isSource ⟨name⟩ || Config.fileNames.contains name

/-- Reads a folder with all below it; `depth` bounds the levels. Folders that are not searched are
taken as empty. -/
def readFolder : Nat → List String → IO (List (String × Entry))
  | 0, _ => return []
  | depth + 1, place => do
    let mut entries := []
    for name in ← realNames place do
      let inner := place ++ [name]
      if ← isRealFolder inner then
        let below ← if isSearched [] name then readFolder depth inner else pure []
        entries := (name, .folder below) :: entries
      else
        let content ←
          if isReadable name then IO.FS.readBinFile (placeText inner) else pure ByteArray.empty
        entries := (name, .file content) :: entries
    return entries.reverse

def maxLevels : Nat := 64

/-- Adds what stands at a path, and the folders on the way to it. -/
def addPath (disk : Disk) : List String → List Path.Component → IO Disk
  | place, [] => do
    if ← isRealFolder place then
      let entries ← readFolder maxLevels place
      return { disk with tree := disk.tree.put place (.folder entries) }
    else if ← isRealThere place then
      let content ← IO.FS.readBinFile (placeText place)
      return { disk with tree := disk.tree.put place (.file content) }
    else return disk
  | place, component :: rest => do
    match component with
    | .root => addPath disk [] rest
    | .here => addPath disk place rest
    | .up => addPath disk place.dropLast rest
    | .name name =>
      let inner := place ++ [name]
      match disk.tree.get? inner, ← isRealFolder inner, ← isRealThere inner with
      | none, true, _ => addPath { disk with tree := disk.tree.put inner (.folder []) } inner rest
      | none, false, true =>
        let content ← IO.FS.readBinFile (placeText inner)
        return { disk with tree := disk.tree.put inner (.file content) }
      | _, _, _ => addPath disk inner rest

def addPaths (disk : Disk) (paths : List Path) : IO Disk :=
  paths.foldlM (fun disk path => addPath disk disk.here path.components) disk

/-- A disk with nothing but the way to the working folder. -/
def emptyDisk : IO Disk := do
  let here ← workingPlace
  let ways := (List.range (here.length + 1)).map fun n => here.take n
  return { tree := ways.foldl (fun tree place => tree.put place (.folder [])) default, here }

/-- What an invocation can see of the real disk. -/
def visibleDisk (invocation : Invocation) : IO Disk := do
  let disk ← addPaths (← emptyDisk) (invocation.root :: invocation.config.toList)
  let config :=
    match invocation.config with
    | some path => (Config.load disk path).toOption
    | none => (Config.discover disk invocation.root).toOption.join
  addPaths disk (invocation.paths (config.getD {}))

/-! ## Writing back -/

def removeReal (place : List String) : Entry → IO Unit
  | .file _ => IO.FS.removeFile (placeText place)
  | .folder _ => IO.FS.removeDirAll (placeText place)

def entriesOf : Option Entry → List (String × Entry)
  | some (.folder entries) => entries
  | _ => []

mutual

/-- Makes the real disk agree with an entry, given what stood there before. -/
def writeBack (place : List String) (before : Option Entry) : Entry → IO Unit
  | .file content => do
    let isSame := match before with
      | some (.file old) => old == content
      | _ => false
    if !isSame then IO.FS.writeBinFile (placeText place) content
  | .folder entries => do
    if before.isNone then IO.FS.createDirAll (placeText place)
    for (name, entry) in entriesOf before do
      if (Bag.find? name entries).isNone then removeReal (place ++ [name]) entry
    writeBackAll place before entries

def writeBackAll (place : List String) (before : Option Entry) :
    List (String × Entry) → IO Unit
  | [] => return
  | (name, entry) :: rest => do
    writeBack (place ++ [name]) (Bag.find? name (entriesOf before)) entry
    writeBackAll place before rest

end

/-! ## Printing -/

def printReal (start : Nat) : Line → IO Unit
  | .text text => IO.println text
  | .elapsed lead tail => do IO.println s!"{lead}{(← IO.monoMsNow) - start}{tail}"

end Widgetry.Cli

open Widgetry.Cli in
def main (arguments : List String) : IO UInt32 := do
  let start ← IO.monoMsNow
  let invocation := Invocation.parse arguments
  let disk ← match invocation with
    | .ok invocation => visibleDisk invocation
    | .error _ => pure { tree := .folder [], here := [] }
  let outcome := run invocation disk
  writeBack [] (some disk.tree) outcome.disk.tree
  for line in outcome.printed do
    printReal start line
  match outcome.error, invocation with
  | some error, _ => IO.eprintln (errorLine error)
  | none, .error (.misuse fault) => IO.eprintln s!"error: {fault.message}"
  | none, _ => pure ()
  return UInt32.ofNat outcome.exit
