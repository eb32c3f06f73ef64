import Widgetry.Cli.Commands
import Widgetry.Proofs.Cli.Sessions
import Widgetry.Proofs.Project.Artifacts
import Widgetry.Proofs.Project.Sources

/-!
Building again. A build writes into the very tree in which the next one looks for sources and for a
configuration, but by its name no file that it writes is either of them. Main statement: after a build
that succeeds the same one succeeds again, compiles the same output and leaves the tree as it is.
-/

namespace Widgetry

open Disk

/-! ## Where a build writes -/

/-- The places of the files that a build writes, with artifacts in the folder at `artifacts`. -/
inductive BuildPlace (artifacts : List String) : List String → Prop
  | artifact {id : String} (hid : '/' ∉ id.toList) (hconfig : id ≠ "brik.config") :
      BuildPlace artifacts (artifacts ++ [id ++ "." ++ "json"])
  | code {folder : List String} {name ending : String} (hname : '/' ∉ name.toList)
      (hending : ending = "swift" ∨ ending = "kt") :
      BuildPlace artifacts (folder ++ [name ++ "." ++ ending])

theorem eq_ending {stem ending found : String} (hending : '.' ∉ ending.toList)
    (h : (Path.splitName (stem ++ "." ++ ending)).2 = some found) : found = ending := by
  rw [Path.splitName_append stem hending] at h
  split at h
  · cases h
  · exact (Option.some.inj h).symm

theorem isQuiet_of_ending {stem ending : String} (hstem : '/' ∉ stem.toList)
    (hending : ending = "json" ∨ ending = "swift" ∨ ending = "kt") :
    IsQuiet (stem ++ "." ++ ending) := by
  obtain ⟨hpoint, hslash, hlength, hsource⟩ : '.' ∉ ending.toList ∧ '/' ∉ ("." ++ ending).toList ∧
      3 ≤ ("." ++ ending).length ∧ ending ≠ "tsx" ∧ ending ≠ "jsx" := by
    rcases hending with rfl | rfl | rfl <;> decide
  refine ⟨?_, fun found hfound => eq_ending hpoint hfound ▸ hsource⟩
  have hname : '/' ∉ (stem ++ ("." ++ ending)).toList := by
    rw [String.toList_append, List.mem_append]
    exact not_or.2 ⟨hstem, hslash⟩
  rw [String.append_assoc]
  exact ⟨hname, isPlain_of_ending hstem hslash hlength⟩

namespace BuildPlace

variable {artifacts place : List String} {name : String}

theorem isQuietPlace (h : BuildPlace artifacts place) : IsQuietPlace place := by
  cases h with
  | artifact hid _ => simpa [IsQuietPlace] using isQuiet_of_ending hid (.inl rfl)
  | code hname hending => simpa [IsQuietPlace] using isQuiet_of_ending hname (.inr hending)

/-- A file with the ending of a configuration can only be an artifact. -/
theorem eq_artifact {extension : String} (h : BuildPlace artifacts (place ++ [name]))
    (hextension : (Path.splitName name).2 = some extension)
    (hformat : extension = "json" ∨ extension = "toml") :
    place = artifacts ∧ ∃ id, name = id ++ "." ++ "json" ∧ id ≠ "brik.config" := by
  generalize hplace : place ++ [name] = whole at h
  cases h with
  | artifact _ hconfig =>
    obtain ⟨rfl, hname⟩ := List.append_inj' hplace rfl
    exact ⟨rfl, _, List.head_eq_of_cons_eq hname, hconfig⟩
  | code _ hending =>
    obtain ⟨-, hname⟩ := List.append_inj' hplace rfl
    obtain rfl := List.head_eq_of_cons_eq hname
    have hpoint : ∀ ending, ending = "swift" ∨ ending = "kt" → '.' ∉ ending.toList := by
      rintro _ (rfl | rfl) <;> decide
    obtain rfl := eq_ending (hpoint _ hending) hextension
    rcases hending with rfl | rfl <;> simp at hformat

/-- No file is written in place of a configuration that a project has. -/
theorem not_of_fileName (hname : name ∈ Config.fileNames) :
    ¬ BuildPlace artifacts (place ++ [name]) := by
  intro h
  rcases List.mem_pair.1 hname with rfl | rfl
  · have htoml : (Path.splitName "brik.config.toml").2 = some "toml" := by decide
    obtain ⟨-, id, hid, -⟩ := h.eq_artifact htoml (.inr rfl)
    rw [hid] at htoml
    exact absurd (eq_ending (by decide) htoml) (by decide)
  · have hjson : (Path.splitName "brik.config.json").2 = some "json" := by decide
    obtain ⟨-, id, hid, hconfig⟩ := h.eq_artifact hjson (.inl rfl)
    have hparts : "brik.config" ++ "." ++ "json" = id ++ "." ++ "json" := hid
    rw [String.append_left_inj, String.append_left_inj] at hparts
    exact hconfig hparts.symm

/-- No file is written in place of a configuration that is named and not among the artifacts. -/
theorem not_of_extension {disk : Disk} {path : Path} {extension : String}
    (hextension : path.extension? = some extension)
    (hformat : extension = "json" ∨ extension = "toml")
    (hplace : ¬ artifacts <+: disk.placeAt path) : ¬ BuildPlace artifacts (disk.placeAt path) := by
  obtain ⟨name, hname, hsplit⟩ := Option.bind_eq_some_iff.1 hextension
  obtain ⟨folder, hfolder⟩ := placeAt_of_fileName? disk hname
  rw [hfolder] at hplace ⊢
  intro h
  obtain ⟨rfl, -⟩ := h.eq_artifact hsplit hformat
  exact hplace (List.prefix_append folder [name])

end BuildPlace

/-! ## The configuration -/

theorem Config.parse_eq_ok {extension : Option String} {text : String} {config : Config}
    (h : Config.parse extension text = .ok config) :
    ∃ format, extension = some format ∧ (format = "json" ∨ format = "toml") := by
  unfold Config.parse at h
  split at h
  · exact ⟨"json", rfl, .inl rfl⟩
  · exact ⟨"toml", rfl, .inr rfl⟩
  · cases h

theorem Config.load_eq_ok {disk : Disk} {path : Path} {config : Config} :
    Config.load disk path = .ok config ↔ ∃ text, disk.readText path = .ok text ∧
      Config.parse path.extension? text = .ok config := by
  rw [Config.load]
  cases disk.readText path with
  | error fault => simp
  | ok text => cases hparse : Config.parse path.extension? text <;> simp [hparse, Except.mapError]

section

variable {artifacts : List String} {before after : Disk} {config : Config}

theorem Config.load_of_edits {path : Path} (h : Edits (BuildPlace artifacts) before after)
    (hplace : ¬ artifacts <+: before.placeAt path)
    (hconfig : Config.load before path = .ok config) : Config.load after path = .ok config := by
  obtain ⟨text, htext, hparse⟩ := Config.load_eq_ok.1 hconfig
  obtain ⟨extension, hextension, hformat⟩ := Config.parse_eq_ok hparse
  refine Config.load_eq_ok.2 ⟨text, h.keeps.readText htext ?_, hparse⟩
  exact BuildPlace.not_of_extension hextension hformat hplace

theorem Config.discover_of_edits {root : Path} (h : Edits (BuildPlace artifacts) before after)
    (hroot : before.isFolder root = true) :
    Config.discover after root = Config.discover before root := by
  have hlocate : ∀ path ∈ Config.fileNames.map root.join, ∀ place content,
      after.locate path = .ok (place, .file content) ↔
        before.locate path = .ok (place, .file content) := by
    intro path hpath place content
    obtain ⟨name, hname, rfl⟩ := List.mem_map.1 hpath
    have hvalid : Path.IsName name := by rcases List.mem_pair.1 hname with rfl | rfl <;> decide
    refine h.locate_join hroot hvalid ?_
    rw [placeAt_join before root hvalid.2, hvalid.segments]
    exact BuildPlace.not_of_fileName hname
  have hfile : ∀ path ∈ Config.fileNames.map root.join, after.isFile path = before.isFile path := by
    intro path hpath
    rw [Bool.eq_iff_iff, isFile_iff, isFile_iff]
    simp only [hlocate path hpath]
  rw [Config.discover, Config.discover, List.find?_congr hfile]
  cases hfound : (Config.fileNames.map root.join).find? before.isFile with
  | none => rfl
  | some path =>
    obtain ⟨place, content, hbefore⟩ := isFile_iff.1 (List.find?_some hfound)
    have hafter := (hlocate path (List.mem_of_find?_eq_some hfound) place content).2 hbefore
    simp only [Config.load, readText, hafter, hbefore]

end

namespace Cli

open SessionM

/-- The configuration that an invocation works with: the one that it names, or else the one that the
project has, or else an empty one. -/
def Invocation.configFrom (invocation : Invocation) (disk : Disk) : Except Error Config :=
  match invocation.config with
  | some path => Config.load disk path
  | none => (Config.discover disk invocation.root).map fun found => found.getD {}

theorem Invocation.configFrom_of_edits {invocation : Invocation} {artifacts : List String}
    {before after : Disk} {config : Config} (h : Edits (BuildPlace artifacts) before after)
    (hroot : before.isFolder invocation.root = true)
    (hnamed : ∀ path ∈ invocation.config, ¬ artifacts <+: before.placeAt path)
    (hconfig : invocation.configFrom before = .ok config) :
    invocation.configFrom after = .ok config := by
  rw [configFrom] at hconfig ⊢
  cases hgiven : invocation.config with
  | some path =>
    rw [hgiven] at hconfig
    exact Config.load_of_edits h (hnamed path hgiven) hconfig
  | none =>
    rw [hgiven] at hconfig
    simpa only [Config.discover_of_edits h hroot] using hconfig

/-! ## What a build does -/

theorem performs_printStats (stats : Stats) : Performs (printStats stats) () [] :=
  (Performs.print _).bind <| (Performs.print _).bind <| (Performs.print _).bind <|
    (Performs.forM_nil _ fun _ => .print _).bind <| (Performs.printLine _).bind (.print _)

/-- What is done to write the code of some roots. -/
def generationDeeds (roots : List Root) (destinations : List Destination) : List Deed :=
  if roots.isEmpty then []
  else destinations.flatMap fun destination =>
    codeDeeds destination.dir (destination.target.files roots)

/-- What is done to write the artifacts of some roots and their code. -/
def buildDeeds (invocation : Invocation) (config : Config) (roots : List Root) : List Deed :=
  artifactDeeds (invocation.options config).artifactDir roots
    ++ generationDeeds roots (invocation.destinations config)

section

variable {roots : List Root} (hroots : ∀ root ∈ roots, root.version = currentVersion)

include hroots

theorem performs_generate (destination : Destination) :
    Performs (generate roots destination) ()
      (codeDeeds destination.dir (destination.target.files roots)) := by
  have hfiles : (destination.target.generate roots).mapError Error.refused
      = .ok (destination.target.files roots) := by
    rw [destination.target.generate_eq_ok hroots]
    rfl
  have hwrite : Performs (perform (writeCode destination.dir (destination.target.files roots))) _
      (codeDeeds destination.dir (destination.target.files roots)) :=
    .perform fun before value after => succeeds_writeCode
  exact (Performs.lift hfiles).bind (hwrite.bind_nil (.print _))

theorem performs_generateAll (destinations : List Destination) :
    Performs (generateAll roots destinations) () (generationDeeds roots destinations) := by
  rw [generateAll, generationDeeds]
  split
  · exact .print _
  · exact .forM fun destination _ => performs_generate hroots destination

end

theorem performs_produce {output : CompileOutput}
    (hroots : ∀ root ∈ output.roots, root.version = currentVersion) (invocation : Invocation)
    (config : Config) :
    Performs (produce invocation config output) () (buildDeeds invocation config output.roots) := by
  have hartifacts : Performs
      (perform (writeArtifacts output.roots (invocation.options config).artifactDir)) _
      (artifactDeeds (invocation.options config).artifactDir output.roots) :=
    .perform fun before value after => succeeds_writeArtifacts
  have hstats : Performs (if invocation.stats then printStats output.stats else pure ()) () [] := by
    split
    · exact performs_printStats _
    · exact .pure ()
  exact hartifacts.bind <| (Performs.forM_nil _ fun _ => .print _).bind <|
    (Performs.print _).bind <|
    (performs_generateAll hroots (invocation.destinations config)).bind_nil <|
    (Performs.printLine _).bind hstats

section

variable {roots : List Root} {disk : Disk}

theorem buildPlace_artifact (dir : Path) {id : String} (hid : '/' ∉ id.toList)
    (hconfig : id ≠ "brik.config") :
    BuildPlace (disk.placeAt dir) (disk.placeAt (artifactPath dir id)) := by
  have hname : id ++ ".json" = id ++ "." ++ "json" := by
    rw [String.append_assoc]
    rfl
  rw [placeAt_artifactPath disk dir hid, hname]
  exact .artifact hid hconfig

theorem buildPlace_of_artifactDeeds {dir : Path} (hids : ∀ root ∈ roots, '/' ∉ root.rootId.toList)
    (hconfig : ∀ root ∈ roots, root.rootId ≠ "brik.config") :
    ∀ file ∈ Deed.files disk (artifactDeeds dir roots), BuildPlace (disk.placeAt dir) file.1 := by
  intro file hfile
  simp only [Deed.files, artifactDeeds, rootDeeds, List.mem_filterMap, List.cons_append,
    List.mem_cons, List.mem_append, List.mem_map, List.not_mem_nil, or_false] at hfile
  obtain ⟨_, rfl | ⟨root, hroot, rfl⟩ | rfl, hwritten⟩ := hfile
  · cases hwritten
  · obtain rfl := Option.some.inj hwritten
    dsimp only
    exact buildPlace_artifact dir (hids root hroot) (hconfig root hroot)
  · obtain rfl := Option.some.inj hwritten
    have hindex : '/' ∉ "index".toList ∧ "index" ≠ "brik.config" := by decide
    dsimp only
    rw [join_indexName]
    exact buildPlace_artifact dir hindex.1 hindex.2

theorem buildPlace_of_generationDeeds (artifacts : List String) (destinations : List Destination) :
    ∀ file ∈ Deed.files disk (generationDeeds roots destinations), BuildPlace artifacts file.1 := by
  intro file hfile
  obtain ⟨deed, hdeed, hwritten⟩ := List.mem_filterMap.1 hfile
  rw [generationDeeds] at hdeed
  split at hdeed
  · cases hdeed
  · obtain ⟨destination, -, hcode⟩ := List.mem_flatMap.1 hdeed
    have hfile := List.mem_filterMap.2 ⟨deed, hcode, hwritten⟩
    rw [← Deed.files, files_codeDeeds] at hfile
    obtain ⟨code, hmem, rfl⟩ := List.mem_map.1 hfile
    obtain ⟨folder, name, ending, hname, hending, hplace⟩ :=
      destination.target.exists_name_of_mem hmem disk destination.dir
    rw [hplace]
    exact .code hname hending

end

theorem Invocation.entries_options {invocation : Invocation} {config : Config}
    (h : config.entries = none) : (invocation.options config).entries = none := by
  simp [options, Config.apply, h]

/-- What a build of a project that names no files does to the disk. -/
theorem edits_build {invocation : Invocation} {config : Config} {output : CompileOutput}
    {before after : Disk} (hdisk : before.tree.WellFormed) (hentries : config.entries = none)
    (houtput : compileProject before (invocation.options config) = .ok output)
    (h : Does (buildDeeds invocation config output.roots) before after) :
    Edits (BuildPlace (before.placeAt (invocation.options config).artifactDir)) before after := by
  have hids : ∀ root ∈ output.roots, '/' ∉ root.rootId.toList := fun root hroot hslash =>
    ((wellNamed_rootIds houtput).flat _ (List.mem_map_of_mem hroot) '/' hslash).1 rfl
  -- The id of a source keeps the last letter of its ending, which this name does not have.
  have hconfig : ∀ root ∈ output.roots, root.rootId ≠ "brik.config" := by
    intro root hroot heq
    have hletter := mem_rootId hdisk (Invocation.entries_options hentries) houtput root hroot
    rw [heq] at hletter
    exact absurd hletter (by decide)
  refine h.edits.mono fun place hplace => ?_
  obtain ⟨file, hfile, rfl⟩ := List.mem_map.1 hplace
  rw [Deed.files, buildDeeds, List.filterMap_append] at hfile
  exact (List.mem_append.1 hfile).elim (buildPlace_of_artifactDeeds hids hconfig file)
    (buildPlace_of_generationDeeds _ _ file)

/-! ## Runs -/

/-- The configuration is read from the disk, and nothing is done to find it. -/
theorem resolveConfig_eq_ok {invocation : Invocation} {config : Config} {before after : Session} :
    (∃ named middle, invocation.config.mapM loadConfig before = (.ok named, middle) ∧
      resolveConfig named invocation.root middle = (.ok config, after)) ↔
      invocation.configFrom before.disk = .ok config ∧ after = before := by
  rw [Invocation.configFrom]
  cases invocation.config with
  | none =>
    have hresolve : resolveConfig none invocation.root before = (.ok config, after) ↔
        ∃ found, Config.discover before.disk invocation.root = .ok found ∧
          (pure (found.getD {}) : SessionM Config) before = (.ok config, after) := by
      rw [resolveConfig, disk_bind]
      exact lift_bind_eq_ok
    constructor
    · rintro ⟨named, middle, hnamed, h⟩
      obtain ⟨rfl, rfl⟩ := pure_eq_ok.1 hnamed
      obtain ⟨found, hfound, h⟩ := hresolve.1 h
      obtain ⟨rfl, rfl⟩ := pure_eq_ok.1 h
      exact ⟨by rw [hfound]; rfl, rfl⟩
    · rintro ⟨hconfig, rfl⟩
      refine ⟨none, _, rfl, hresolve.2 ?_⟩
      cases hfound : Config.discover after.disk invocation.root with
      | error fault =>
        rw [hfound] at hconfig
        cases hconfig
      | ok found =>
        rw [hfound] at hconfig
        exact ⟨found, rfl, pure_eq_ok.2 ⟨Except.ok.inj hconfig, rfl⟩⟩
  | some path =>
    have hload : ∀ {named middle}, Option.mapM loadConfig (some path) before = (.ok named, middle) ↔
        ∃ found, Config.load before.disk path = .ok found ∧
          (pure (some found) : SessionM (Option Config)) before = (.ok named, middle) := by
      intro named middle
      rw [Option.mapM_some, map_eq_pure_bind, loadConfig, bind_assoc, disk_bind]
      exact lift_bind_eq_ok
    constructor
    · rintro ⟨named, middle, hnamed, h⟩
      obtain ⟨found, hfound, hnamed⟩ := hload.1 hnamed
      obtain ⟨rfl, rfl⟩ := pure_eq_ok.1 hnamed
      obtain ⟨rfl, rfl⟩ := pure_eq_ok.1 h
      exact ⟨hfound, rfl⟩
    · rintro ⟨hconfig, rfl⟩
      exact ⟨some config, _, hload.2 ⟨config, hconfig, rfl⟩, rfl⟩

/-- A build finds its configuration, compiles the project and writes what comes out. -/
theorem run_build_eq_ok {invocation : Invocation} (hcommand : invocation.command = some .build)
    {before after : Session} :
    invocation.run before = (.ok (), after) ↔ ∃ config output,
      invocation.configFrom before.disk = .ok config ∧
      compileProject before.disk (invocation.options config) = .ok output ∧
      produce invocation config output { before with printed := before.printed
        ++ [.text s!"🔨 Building {invocation.root.text}"] } = (.ok (), after) := by
  have hbuild : ∀ {config : Config} {middle : Session}, (do
      print s!"🔨 Building {invocation.root.text}"
      let output ← compileProject (← disk) (invocation.options config)
      produce invocation config output) middle = (.ok (), after) ↔ ∃ output,
        compileProject middle.disk (invocation.options config) = .ok output ∧
        produce invocation config output { middle with printed := middle.printed
          ++ [.text s!"🔨 Building {invocation.root.text}"] } = (.ok (), after) := by
    intro config middle
    rw [print_bind, disk_bind]
    exact lift_bind_eq_ok
  simp only [Invocation.run, hcommand, bind_eq_ok]
  constructor
  · rintro ⟨named, middle, hnamed, hrun⟩
    obtain ⟨config, last, hconfig, hlast⟩ := bind_eq_ok.1 hrun
    obtain ⟨hconfig, rfl⟩ := resolveConfig_eq_ok.1 ⟨named, middle, hnamed, hconfig⟩
    obtain ⟨output, houtput, hproduce⟩ := hbuild.1 hlast
    exact ⟨config, output, hconfig, houtput, hproduce⟩
  · rintro ⟨config, output, hconfig, houtput, hproduce⟩
    obtain ⟨named, middle, hnamed, hresolve⟩ := resolveConfig_eq_ok.2 ⟨hconfig, rfl⟩
    exact ⟨named, middle, hnamed,
      bind_eq_ok.2 ⟨config, before, hresolve, hbuild.2 ⟨output, houtput, hproduce⟩⟩⟩

theorem run_of_ok {invocation : Invocation} {disk : Disk} {session : Session}
    (h : invocation.run { disk } = (.ok (), session)) :
    run (.ok invocation) disk = { exit := 0, printed := session.printed, disk := session.disk } := by
  rw [run, h]

theorem exists_of_exit {invocation : Invocation} {disk : Disk}
    (h : (run (.ok invocation) disk).exit = 0) :
    ∃ session, invocation.run { disk } = (.ok (), session) := by
  rw [run] at h
  rcases hrun : invocation.run { disk } with ⟨_ | _, session⟩
  · rw [hrun] at h
    cases h
  · exact ⟨session, rfl⟩

/-- A build that succeeds can be repeated. The next one works with the same configuration, compiles the
project to the same output, and ends in the same way: it prints the same lines, and the tree is what
the first one left. -/
theorem run_build_again {invocation : Invocation} {disk : Disk} {config : Config}
    (hcommand : invocation.command = some .build) (hdisk : disk.tree.WellFormed)
    (hconfig : invocation.configFrom disk = .ok config) (hentries : config.entries = none)
    (hnamed : ∀ path ∈ invocation.config,
      ¬ disk.placeAt (invocation.options config).artifactDir <+: disk.placeAt path)
    (hbuilt : (run (.ok invocation) disk).exit = 0) :
    ∃ output, compileProject disk (invocation.options config) = .ok output ∧
      invocation.configFrom (run (.ok invocation) disk).disk = .ok config ∧
      compileProject (run (.ok invocation) disk).disk (invocation.options config) = .ok output ∧
      run (.ok invocation) (run (.ok invocation) disk).disk = run (.ok invocation) disk := by
  obtain ⟨session, hrun⟩ := exists_of_exit hbuilt
  obtain ⟨found, output, hfound, houtput, hproduce⟩ := (run_build_eq_ok hcommand).1 hrun
  obtain rfl := Except.ok.inj (hconfig.symm.trans hfound)
  have hversions := fun root hroot => (valid_of_mem_roots houtput root hroot).version
  -- What is done and printed depends on the configuration and the output alone, and both are the same
  -- on the disk that the first run leaves.
  obtain ⟨lines, hperforms⟩ := performs_produce hversions invocation config
  obtain ⟨-, hdoes, hprinted⟩ := (hperforms _ _ _).1 hproduce
  have hedits := edits_build hdisk hentries houtput hdoes
  have hentries : (invocation.options config).entries = none := Invocation.entries_options hentries
  have hroot := isFolder_of_compileProject hentries houtput
  have hconfig' := Invocation.configFrom_of_edits hedits hroot hnamed hconfig
  have houtput' := compileProject_of_edits hdisk hentries
    (hedits.mono fun _ hplace => hplace.isQuietPlace) houtput
  have hagain : invocation.run { disk := session.disk } = (.ok (), session) := by
    refine (run_build_eq_ok hcommand).2 ⟨config, output, hconfig', houtput', ?_⟩
    exact (hperforms _ _ _).2 ⟨rfl, hdoes.again, hprinted⟩
  rw [run_of_ok hrun]
  exact ⟨output, houtput, hconfig', houtput', run_of_ok hagain⟩

/-- A folder with one source and a configuration, which sends the artifacts to a folder that is
searched for sources. -/
def noteDisk : Disk where
  tree := .folder [("a.tsx", .file "<Text>x</Text>".toUTF8),
    ("settings.json", .file "\x7b\"out_dir\": \"out\"\x7d".toUTF8)]

def noteBuild : Invocation where
  command := some .build
  config := some ⟨"settings.json"⟩
  platform := .ios

theorem run_build_again_note : ∃ config output,
    noteBuild.configFrom noteDisk = .ok config ∧
      noteDisk.placeAt (noteBuild.options config).artifactDir = ["out"] ∧
      compileProject noteDisk (noteBuild.options config) = .ok output ∧
      output.rootIds = ["a.tsx"] ∧ (run (.ok noteBuild) noteDisk).exit = 0 ∧
      run (.ok noteBuild) (run (.ok noteBuild) noteDisk).disk = run (.ok noteBuild) noteDisk := by
  have hdisk : noteDisk.tree.WellFormed := by
    refine ⟨by decide, ?_⟩
    simp only [Entry.AllWellFormed, Entry.WellFormed]
    decide
  have hbuilt : (run (.ok noteBuild) noteDisk).exit = 0 := by decide +kernel
  have hfacts : ((noteBuild.configFrom noteDisk).toOption.map fun config =>
      (config.entries, noteDisk.placeAt (noteBuild.options config).artifactDir,
        (compileProject noteDisk (noteBuild.options config)).toOption.map CompileOutput.rootIds))
      = some (none, ["out"], some ["a.tsx"]) := by
    decide +kernel
  cases hconfig : noteBuild.configFrom noteDisk with
  | error fault =>
    rw [hconfig] at hfacts
    cases hfacts
  | ok config =>
    simp only [hconfig, Except.toOption, Option.map_some, Option.some.injEq, Prod.mk.injEq] at hfacts
    obtain ⟨hentries, hplace, hids⟩ := hfacts
    have hnamed : ∀ path ∈ noteBuild.config,
        ¬ noteDisk.placeAt (noteBuild.options config).artifactDir <+: noteDisk.placeAt path := by
      rw [hplace]
      decide
    obtain ⟨output, houtput, -, -, hagain⟩ :=
      run_build_again rfl hdisk hconfig hentries hnamed hbuilt
    rw [houtput] at hids
    exact ⟨config, output, rfl, hplace, houtput, Option.some.inj hids, hbuilt, hagain⟩

end Cli

end Widgetry
