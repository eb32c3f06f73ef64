import Widgetry.About
import Widgetry.Cli.Arguments
import Widgetry.Cli.Session
import Widgetry.Config.Basic
import Widgetry.Decimal.Numeral
import Widgetry.Generate
import Widgetry.Project.Compile

/-!
The commands: listing the roots of a project, building it, checking it, and removing what was built.
-/

namespace Widgetry.Cli

open SessionM

/-! ## Settings -/

/-- The options of an invocation: those of the configuration, then those of the command line. -/
def Invocation.options (invocation : Invocation) (config : Config) : Options :=
  let configured := config.apply { projectRoot := invocation.root }
  { configured with
    asWidget := invocation.asWidget || configured.asWidget
    debug := invocation.debug || configured.debug
    outDir := invocation.out.getD configured.outDir }

def loadConfig (path : Path) : SessionM Config := do Config.load (← disk) path

/-- A configuration that is named wins over one that the project has. -/
def resolveConfig (named : Option Config) (root : Path) : SessionM Config := do
  match named with
  | some config => return config
  | none => return (← Config.discover (← disk) root).getD {}

/-- A folder for generated code: from the command line, the configuration, or the usual one. -/
def platformDir (root : Path) (given configured : Option String) (usual : String) : Path :=
  root.join ((given.or configured).getD usual)

/-! ## Reports -/

def rootKind (root : Root) : String :=
  if root.liveActivity.isSome then "live activity"
  else if root.widget.isSome then "widget"
  else "view"

def printRoot (root : Root) : SessionM Unit :=
  print s!"   {root.rootId} ({rootKind root}, {root.tree.count} nodes)"

def printFailure (failure : String × Error) : SessionM Unit :=
  print s!"❌ {failure.1} [{failure.2.code}] {failure.2.message}"

/-- The counts of a compilation by their names. -/
def Stats.counts (stats : Stats) : List (String × Nat) :=
  [("files_scanned", stats.filesScanned), ("roots_compiled", stats.rootsCompiled),
   ("parse_failures", stats.parseFailures), ("validation_failures", stats.validationFailures),
   ("live_activity_count", stats.liveActivities), ("widget_count", stats.widgets),
   ("node_count", stats.nodes)]

def printCount (count : String × Nat) : SessionM Unit := print s!"  \"{count.1}\": {count.2},"

def printStats (stats : Stats) : SessionM Unit := do
  print ""
  print "📈 Compilation statistics:"
  print "\x7b"
  (Stats.counts stats).forM printCount
  printLine (.elapsed "  \"compile_time_ms\": " "")
  print "\x7d"

/-- The share of files without errors in percent, with one place. -/
def successRate (failed total : Nat) : String :=
  Double.fixed 1 (Nat.toFloat (total - failed) / Nat.toFloat total * 100)

/-! ## Commands -/

def scan (invocation : Invocation) (named : Option Config) : SessionM Unit := do
  let options := invocation.options (← resolveConfig named invocation.root)
  print s!"🔎 Scanning {invocation.root.text}"
  let output ← compileProject (← disk) options
  output.roots.forM printRoot
  output.failures.forM printFailure
  print s!"📊 {output.roots.length} roots from {output.filesScanned} files"

/-- A platform for which code is generated, and the folder for its code. -/
structure Destination where
  label : String
  target : Target
  dir : Path

def Invocation.destinations (invocation : Invocation) (config : Config) : List Destination :=
  let ios : Destination :=
    { label := "iOS"
      target := .ios
      dir := platformDir invocation.root invocation.iosDir config.iosDir "ios" }
  let android : Destination :=
    { label := "Android"
      target := .android (config.kotlinPackage.getD Android.defaultPackage)
      dir := platformDir invocation.root invocation.androidDir config.androidDir "android" }
  (if invocation.platform.hasIos then [ios] else [])
    ++ if invocation.platform.hasAndroid then [android] else []

/-- Generates code for one platform. -/
def generate (roots : List Root) (destination : Destination) : SessionM Unit := do
  let files ← (destination.target.generate roots).mapError Error.refused
  let written ← perform (writeCode destination.dir files)
  print s!"   {destination.label}: {written.length} files in {destination.dir.text}"

/-- Generates code for all platforms. -/
def generateAll (roots : List Root) (destinations : List Destination) : SessionM Unit :=
  if roots.isEmpty then print "⚠️  Nothing to generate" else destinations.forM (generate roots)

/-- Writes the artifacts of a compiled project and its code, and tells about them. -/
def produce (invocation : Invocation) (config : Config) (output : CompileOutput) :
    SessionM Unit := do
  let artifactDir := (invocation.options config).artifactDir
  let _ ← perform (writeArtifacts output.roots artifactDir)
  output.failures.forM printFailure
  print s!"✅ Compiled {output.roots.length} roots into {artifactDir.text}"
  generateAll output.roots (invocation.destinations config)
  printLine (.elapsed "   Time: " "ms")
  if invocation.stats then printStats output.stats

def build (invocation : Invocation) (named : Option Config) : SessionM Unit := do
  let config ← resolveConfig named invocation.root
  print s!"🔨 Building {invocation.root.text}"
  let output ← compileProject (← disk) (invocation.options config)
  produce invocation config output

def check (invocation : Invocation) (named : Option Config) : SessionM Unit := do
  let options := invocation.options (← resolveConfig named invocation.root)
  print s!"🔍 Checking {invocation.root.text}"
  let output ← compileProject (← disk) options
  for root in output.roots do
    print s!"✅ {root.rootId} - No issues found"
  output.failures.forM printFailure
  let failed := output.failures.length
  print ""
  print "📊 Check Summary:"
  print s!"   Total files: {output.filesScanned}"
  print s!"   Files with errors: {failed}"
  if 0 < output.filesScanned then
    print s!"   Success rate: {successRate failed output.filesScanned}%"
  if 0 < failed then throw (.failed failed output.filesScanned)

def clean (invocation : Invocation) (named : Option Config) : SessionM Unit := do
  let options := invocation.options (← resolveConfig named invocation.root)
  if ← perform (cleanArtifacts options.artifactDir) then
    print s!"🧹 Removed {options.artifactDir.text}"
  else print s!"Nothing to clean at {options.artifactDir.text}"

/-- Does what an invocation asks for. -/
def Invocation.run (invocation : Invocation) : SessionM Unit := do
  let named ← invocation.config.mapM loadConfig
  match invocation.command with
  | some .scan => scan invocation named
  | some .build => build invocation named
  | some .check => check invocation named
  | some .clean => clean invocation named
  | none => print "No subcommand specified. Use --help for usage information."

/-! ## The program -/

/-- What a run of the program leaves. -/
structure Outcome where
  exit : Nat
  printed : List Line
  /-- What ended the run early. -/
  error : Option Error := none
  disk : Disk

/-- The line that tells the version. -/
def versionLine : String := s!"{About.name} {About.version}"

def usage : List String :=
  [About.description, "", s!"Usage: {About.name} [OPTIONS] [COMMAND]", "", "Commands:",
   "  scan   List the roots a project would compile to",
   "  build  Compile sources to IR and generate native code",
   "  check  Compile and validate without writing anything",
   "  clean  Remove the IR artifact directory",
   "  help   Print this message or the help of the given subcommand(s)", "", "Options:",
   "  -c, --config <FILE>  Configuration file path (.toml or .json)",
   "  -v, --verbose...     Increase verbosity (can be used multiple times)",
   "  -h, --help           Print help",
   "  -V, --version        Print version"]

/-- Runs the program with what its arguments say. -/
def run (invocation : Taken Invocation) (disk : Disk) : Outcome :=
  match invocation with
  | .error .help => { exit := 0, printed := usage.map .text, disk }
  | .error .version => { exit := 0, printed := [.text versionLine], disk }
  | .error (.misuse _) => { exit := 2, printed := [], disk }
  | .ok invocation =>
    match invocation.run { disk } with
    | (.ok _, session) => { exit := 0, printed := session.printed, disk := session.disk }
    | (.error error, session) =>
      { exit := 1, printed := session.printed, error := some error, disk := session.disk }

/-- The paths that an invocation may read or write, apart from its configuration. -/
def Invocation.paths (invocation : Invocation) (config : Config) : List Path :=
  let options := invocation.options config
  let root := invocation.root
  (options.entries.getD []).map root.join ++
    [options.artifactDir, platformDir root invocation.iosDir config.iosDir "ios",
     platformDir root invocation.androidDir config.androidDir "android"]

/-- The line that tells an error. -/
def errorLine (error : Error) : String := s!"error[{error.code}]: {error.message}"

end Widgetry.Cli
