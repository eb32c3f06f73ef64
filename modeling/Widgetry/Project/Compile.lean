import Widgetry.Project.Discovery

/-!
Compiling the files of a project one after the other. A file with an error does not stop the
others, and only files that have a root take an id.
-/

namespace Widgetry

/-! ## Ids -/

/-- A name with a number behind it. -/
def numbered (name : String) (n : Int) : String := s!"{name}_{n}"

/-- The first of `left` names `candidate_n`, `candidate_(n+1)`, … that is not taken. Numbers have
32 bits, so that the smallest one comes after the largest. -/
def firstFree? (candidate : String) (taken : List String) : (left : Nat) → (n : Int32) → Option String
  | 0, _ => none
  | left + 1, n =>
    if numbered candidate n.toInt ∈ taken then firstFree? candidate taken left (n + 1)
    else some (numbered candidate n.toInt)

/-- A free id: the candidate itself, or else with the first free number from two on. There is none if
the candidate is taken with every number: the search then goes round for ever. -/
def uniqueId? (candidate : String) (taken : List String) : Option String :=
  if candidate ∈ taken then firstFree? candidate taken Int32.size 2 else some candidate

/-! ## Outcomes -/

structure Stats where
  filesScanned : Nat := 0
  rootsCompiled : Nat := 0
  parseFailures : Nat := 0
  validationFailures : Nat := 0
  liveActivities : Nat := 0
  widgets : Nat := 0
  nodes : Nat := 0

/-- What became of one file. -/
inductive FileOutcome where
  | compiled (root : Root)
  | rootless
  | failed (error : Error)

structure CompileOutput where
  roots : List Root := []
  failures : List (String × Error) := []
  filesScanned : Nat := 0

namespace CompileOutput

def rootIds (output : CompileOutput) : List String := output.roots.map Root.rootId

def isParseFailure : Error → Bool
  | .malformed _ => true
  | _ => false

def isValidationFailure : Error → Bool
  | .refused (.invalid ..) => true
  | _ => false

def stats (output : CompileOutput) : Stats where
  filesScanned := output.filesScanned
  rootsCompiled := output.roots.length
  parseFailures := output.failures.countP fun failure => isParseFailure failure.2
  validationFailures := output.failures.countP fun failure => isValidationFailure failure.2
  liveActivities := output.roots.countP fun root => root.liveActivity.isSome
  widgets := output.roots.countP fun root => root.widget.isSome
  nodes := output.roots.foldl (fun count root => count + root.tree.count) 0

/-- Adds what became of a file. -/
def add (output : CompileOutput) (file : String) : FileOutcome → CompileOutput
  | .compiled root =>
    { output with
      roots := output.roots ++ [root]
      filesScanned := output.filesScanned + 1 }
  | .rootless => { output with filesScanned := output.filesScanned + 1 }
  | .failed error =>
    { output with
      failures := output.failures ++ [(file, error)]
      filesScanned := output.filesScanned + 1 }

end CompileOutput

/-! ## Files -/

/-- The name of a file inside a project. -/
def relativeName (root path : Path) : String :=
  let name := ((root.relativeTo? path).getD path).text
  String.ofList (name.toList.map fun c => if c = '\\' then '/' else c)

/-- Compiles one file; `taken` holds the ids of the roots so far. A search for an id that never ends
brings no root. -/
def compileFile (read : Path → Except FileFault String) (asWidget : Bool) (taken : List String)
    (path : Path) (name : String) : FileOutcome :=
  match read path with
  | .error fault => .failed (.unreadable path fault)
  | .ok text =>
    match uniqueId? (rootIdOf name) taken with
    | none => .rootless
    | some id =>
      match compileSource text name id asWidget with
      | .ok (some root) => .compiled root
      | .ok none => .rootless
      | .error fault => .failed (.ofCompileFault fault)

/-- Compiles files in their order, after those that `output` tells of. -/
def compileFrom (read : Path → Except FileFault String) (options : Options) :
    CompileOutput → List Path → CompileOutput
  | output, [] => output
  | output, path :: rest =>
    let name := relativeName options.projectRoot path
    let outcome := compileFile read options.asWidget output.rootIds path name
    compileFrom read options (output.add name outcome) rest

/-- The files of a project: those that are named, or else those that are found. -/
def projectFiles (disk : Disk) (options : Options) : Except Error (List Path) :=
  match options.entries with
  | some entries => .ok (entries.map options.projectRoot.join)
  | none => discover disk options.projectRoot options.excludeDirs

/-- Compiles a project. -/
def compileProject (disk : Disk) (options : Options) : Except Error CompileOutput := do
  let files ← projectFiles disk options
  return compileFrom disk.readText options {} files

end Widgetry
