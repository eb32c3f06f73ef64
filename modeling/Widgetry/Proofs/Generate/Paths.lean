import Widgetry.Proofs.Files.Paths
import Widgetry.Proofs.Generate.Fields
import Widgetry.Proofs.Generate.Files
import Widgetry.Proofs.Project.Ids
import Widgetry.Proofs.Project.Writing

/-!
Where generated code is written. The file of a root is named by an identifier, and different ids or
types may give the same one. Main statement: the files of a compiled project have different paths if
and only if no two roots share such an identifier, and all code reaches the disk if and only if files
that share a path have the same content.
-/

namespace Widgetry

open Code Disk

/-! ## Names of files -/

theorem not_mem_identifier (raw : String) : '/' ∉ (identifier raw).toList :=
  fun h => absurd (isIdentifierChar_of_mem h) (by decide)

/-- An identifier with an ending is the name of a file. -/
theorem segments_of_ending {name ending : String} (hname : '/' ∉ name.toList)
    (hending : '/' ∉ ending.toList) : Path.segments ⟨name ++ ending⟩ = [name ++ ending] :=
  Path.segments_of_not_mem (by simp [hname, hending])

theorem isPlain_of_ending {name ending : String} (hname : '/' ∉ name.toList)
    (hending : '/' ∉ ending.toList) (hlength : 3 ≤ ending.length) :
    Path.IsPlain (name ++ ending) := by
  have hlong : ∀ short : String, short.length < 3 → name ++ ending ≠ short := by
    rintro short hshort rfl
    rw [String.length_append] at hshort
    omega
  rw [Path.IsPlain, segments_of_ending hname hending, List.forall_mem_singleton]
  refine ⟨?_, hlong ".." (by decide)⟩
  simp [Path.isIdle, hlong "" (by decide), hlong "." (by decide)]

/-- What the file of a root is named by, and whether it stands in a folder of live activities. -/
def Target.nameOf (target : Target) (root : Root) : Bool × String :=
  match target, root.liveActivity with
  | .ios, some activity => (true, identifier activity.activityType)
  | .android _, some activity => (false, identifier activity.activityType ++ "Activity")
  | _, none => (false, identifier root.rootId)

theorem not_mem_nameOf (target : Target) (root : Root) :
    '/' ∉ (target.nameOf root).2.toList := by
  cases target <;> cases hactivity : root.liveActivity <;>
    simp [Target.nameOf, hactivity, not_mem_identifier]

namespace Ios

/-- The segments of the path of a file with this name. -/
def segmentsOf : Bool × String → List String
  | (true, name) => ["BrikActivities", name ++ "Activity.swift"]
  | (false, name) => ["brik", "Generated", name ++ ".swift"]

theorem segmentsOf_inj {a b : Bool × String} (h : segmentsOf a = segmentsOf b) : a = b := by
  obtain ⟨_ | _, name⟩ := a <;> obtain ⟨_ | _, other⟩ := b <;> simp_all [segmentsOf]

theorem path_rootFile (root : Root) :
    Path.IsPlain (rootFile root).path ∧
      Path.segments ⟨(rootFile root).path⟩ = segmentsOf (Target.ios.nameOf root) := by
  obtain ⟨folder, ending, hpath, hfolder, hending, hlength, hsegments⟩ : ∃ folder ending,
      (rootFile root).path = folder ++ "/" ++ ((Target.ios.nameOf root).2 ++ ending) ∧
        Path.IsPlain folder ∧ '/' ∉ ending.toList ∧ 3 ≤ ending.length ∧
        segmentsOf (Target.ios.nameOf root)
          = Path.segments ⟨folder⟩ ++ [(Target.ios.nameOf root).2 ++ ending] := by
    cases hactivity : root.liveActivity with
    | none =>
      refine ⟨"brik/Generated", ".swift", ?_, by decide, by decide, by decide, ?_⟩
      · simp only [rootFile, Target.nameOf, hactivity]
        exact String.append_assoc
      · simp only [Target.nameOf, hactivity]
        rfl
    | some activity =>
      refine ⟨"BrikActivities", "Activity.swift", ?_, by decide, by decide, by decide, ?_⟩
      · simp only [rootFile, Target.nameOf, hactivity]
        exact String.append_assoc
      · simp only [Target.nameOf, hactivity]
        rfl
  have hname := not_mem_nameOf .ios root
  rw [hpath, Path.segments_append, segments_of_ending hname hending]
  exact ⟨hfolder.append (isPlain_of_ending hname hending hlength), hsegments.symm⟩

variable (disk : Disk) (dir : Path)

theorem placeAt_rootFile (root : Root) :
    disk.placeAt (dir.join (rootFile root).path)
      = disk.placeAt dir ++ segmentsOf (Target.ios.nameOf root) := by
  obtain ⟨hplain, hsegments⟩ := path_rootFile root
  rw [placeAt_join disk dir hplain, hsegments]

/-- Files at one place are those of one name. -/
theorem nameOf_eq_of_placeAt {a b : Root}
    (h : disk.placeAt (dir.join (rootFile a).path) = disk.placeAt (dir.join (rootFile b).path)) :
    Target.ios.nameOf a = Target.ios.nameOf b := by
  rw [placeAt_rootFile, placeAt_rootFile] at h
  exact segmentsOf_inj (List.append_cancel_left h)

/-- The list of all widgets has a place of its own. -/
theorem placeAt_rootFile_ne_bundle (root : Root) :
    disk.placeAt (dir.join (rootFile root).path)
      ≠ disk.placeAt (dir.join "BrikWidget/BrikWidget.swift") := by
  have hbundle : Path.segments ⟨"BrikWidget/BrikWidget.swift"⟩ = ["BrikWidget", "BrikWidget.swift"] := by
    decide
  intro h
  rw [placeAt_rootFile, placeAt_join disk dir (by decide), hbundle] at h
  have hsegments := List.append_cancel_left h
  revert hsegments
  obtain ⟨_ | _, name⟩ := Target.ios.nameOf root <;> simp [segmentsOf]

theorem path_eq_iff (a b : Root) :
    (rootFile a).path = (rootFile b).path ↔ Target.ios.nameOf a = Target.ios.nameOf b := by
  constructor
  · intro h
    exact nameOf_eq_of_placeAt {} ⟨""⟩ (by rw [h])
  · intro h
    cases ha : a.liveActivity <;> cases hb : b.liveActivity <;>
      simp_all [rootFile, Target.nameOf]

theorem nodup_files (roots : List Root) :
    ((files roots).map CodeFile.path).Nodup ↔ (roots.map Target.ios.nameOf).Nodup := by
  have hroots : ((roots.map rootFile).map CodeFile.path).Nodup
      ↔ (roots.map Target.ios.nameOf).Nodup := by
    simp only [List.Nodup, List.map_map, List.pairwise_map, Function.comp_apply, ne_eq, path_eq_iff]
  unfold files
  dsimp only
  split_ifs
  · rw [List.append_nil, hroots]
  · rw [List.map_append, List.nodup_append, hroots]
    refine ⟨fun h => h.1, fun h => ⟨h, List.nodup_singleton _, fun path hpath bundle hbundle => ?_⟩⟩
    obtain ⟨file, hfile, rfl⟩ := List.mem_map.1 hpath
    obtain ⟨root, -, rfl⟩ := List.mem_map.1 hfile
    obtain rfl := List.mem_singleton.1 hbundle
    intro heq
    exact placeAt_rootFile_ne_bundle {} ⟨""⟩ root (by rw [heq])

theorem eq_rootFile_or_bundle {roots : List Root} {file : CodeFile} (h : file ∈ files roots) :
    (∃ root, file = rootFile root) ∨ file.path = "BrikWidget/BrikWidget.swift" := by
  unfold files at h
  dsimp only at h
  rcases List.mem_append.1 h with hroot | hbundle
  · obtain ⟨root, -, rfl⟩ := List.mem_map.1 hroot
    exact .inl ⟨root, rfl⟩
  · split_ifs at hbundle
    · cases hbundle
    · rw [List.mem_singleton.1 hbundle]
      exact .inr rfl

theorem path_eq_of_placeAt {roots : List Root} {a b : CodeFile} (ha : a ∈ files roots)
    (hb : b ∈ files roots)
    (h : disk.placeAt (dir.join a.path) = disk.placeAt (dir.join b.path)) : a.path = b.path := by
  rcases eq_rootFile_or_bundle ha with ⟨root, rfl⟩ | hpath
  · rcases eq_rootFile_or_bundle hb with ⟨other, rfl⟩ | hother
    · exact (path_eq_iff root other).2 (nameOf_eq_of_placeAt disk dir h)
    · rw [hother] at h
      exact absurd h (placeAt_rootFile_ne_bundle disk dir root)
  · rcases eq_rootFile_or_bundle hb with ⟨other, rfl⟩ | hother
    · rw [hpath] at h
      exact absurd h.symm (placeAt_rootFile_ne_bundle disk dir other)
    · rw [hpath, hother]

/-- The last name in the place of a file has the ending of the language. -/
theorem exists_name_of_mem {roots : List Root} {file : CodeFile} (h : file ∈ files roots) :
    ∃ folder name, '/' ∉ name.toList ∧
      disk.placeAt (dir.join file.path) = folder ++ [name ++ ".swift"] := by
  rcases eq_rootFile_or_bundle h with ⟨root, rfl⟩ | hpath
  · have hname := not_mem_nameOf .ios root
    rw [placeAt_rootFile]
    rcases hkind : Target.ios.nameOf root with ⟨_ | _, name⟩ <;> rw [hkind] at hname
    · exact ⟨disk.placeAt dir ++ ["brik", "Generated"], name, hname, by simp [segmentsOf]⟩
    · refine ⟨disk.placeAt dir ++ ["BrikActivities"], name ++ "Activity", ?_, ?_⟩
      · rw [String.toList_append, List.mem_append]
        exact not_or.2 ⟨hname, by decide⟩
      · have hending : name ++ "Activity" ++ ".swift" = name ++ "Activity.swift" :=
          String.append_assoc
        rw [hending, List.append_assoc]
        rfl
  · refine ⟨disk.placeAt dir ++ ["BrikWidget"], "BrikWidget", by decide, ?_⟩
    rw [hpath, placeAt_join disk dir (by decide), List.append_assoc]
    rfl

end Ios

namespace Android

theorem packageFolder_ne_empty (package : String) : (packageFolder package).text ≠ "" := by
  have hfold : ∀ (parts : List String) (base : Path), base.text ≠ "" →
      (parts.foldl Path.join base).text ≠ "" := by
    intro parts
    induction parts with
    | nil => exact fun base h => h
    | cons part rest ih => exact fun base h => ih _ (Path.join_ne_empty part h)
  exact hfold _ _ (by decide)

theorem path_rootFile (package : String) (root : Root) :
    (rootFile package root).path = filePath package ((Target.android package).nameOf root).2 := by
  cases hactivity : root.liveActivity with
  | some activity => simp [rootFile, Target.nameOf, hactivity]
  | none => cases hwidget : root.widget <;> simp [rootFile, Target.nameOf, hactivity, hwidget]

theorem placeAt_rootFile (disk : Disk) (dir : Path) (package : String) (root : Root) :
    disk.placeAt (dir.join (rootFile package root).path)
      = disk.placeAt (dir.join (packageFolder package).text)
        ++ [((Target.android package).nameOf root).2 ++ ".kt"] := by
  have hname := not_mem_nameOf (.android package) root
  have hplain := isPlain_of_ending hname (by decide) (by decide : 3 ≤ ".kt".length)
  rw [path_rootFile, filePath, Path.join_join dir (packageFolder_ne_empty package) hplain,
    placeAt_join _ _ hplain, segments_of_ending hname (by decide)]

/-- Files at one place are those of one name. -/
theorem nameOf_eq_of_placeAt (disk : Disk) (dir : Path) (package : String) {a b : Root}
    (h : disk.placeAt (dir.join (rootFile package a).path)
      = disk.placeAt (dir.join (rootFile package b).path)) :
    (Target.android package).nameOf a = (Target.android package).nameOf b := by
  rw [placeAt_rootFile, placeAt_rootFile] at h
  have hname := List.append_cancel_left h
  simp only [List.cons.injEq, String.append_left_inj, and_true] at hname
  cases ha : a.liveActivity <;> cases hb : b.liveActivity <;> simp_all [Target.nameOf]

theorem path_eq_iff (package : String) (a b : Root) :
    (rootFile package a).path = (rootFile package b).path
      ↔ (Target.android package).nameOf a = (Target.android package).nameOf b := by
  constructor
  · intro h
    exact nameOf_eq_of_placeAt {} ⟨""⟩ package (by rw [h])
  · intro h
    rw [path_rootFile, path_rootFile, h]

theorem nodup_files (package : String) (roots : List Root) :
    ((files package roots).map CodeFile.path).Nodup
      ↔ (roots.map (Target.android package).nameOf).Nodup := by
  simp only [files, List.Nodup, List.map_map, List.pairwise_map, Function.comp_apply, ne_eq,
    path_eq_iff]

theorem path_eq_of_placeAt (disk : Disk) (dir : Path) {package : String} {roots : List Root}
    {a b : CodeFile} (ha : a ∈ files package roots) (hb : b ∈ files package roots)
    (h : disk.placeAt (dir.join a.path) = disk.placeAt (dir.join b.path)) : a.path = b.path := by
  obtain ⟨root, -, rfl⟩ := List.mem_map.1 ha
  obtain ⟨other, -, rfl⟩ := List.mem_map.1 hb
  exact (path_eq_iff package root other).2 (nameOf_eq_of_placeAt disk dir package h)

end Android

/-! ## Code on the disk -/

/-- Wherever code is written, the names of its files end like the language. -/
theorem Target.exists_name_of_mem (target : Target) {roots : List Root} {file : CodeFile}
    (h : file ∈ target.files roots) (disk : Disk) (dir : Path) :
    ∃ folder name ending, '/' ∉ name.toList ∧ (ending = "swift" ∨ ending = "kt") ∧
      disk.placeAt (dir.join file.path) = folder ++ [name ++ "." ++ ending] := by
  cases target with
  | ios =>
    obtain ⟨folder, name, hname, hplace⟩ := Ios.exists_name_of_mem disk dir h
    refine ⟨folder, name, "swift", hname, .inl rfl, ?_⟩
    rw [hplace, String.append_assoc]
    rfl
  | android package =>
    obtain ⟨root, -, rfl⟩ := List.mem_map.1 h
    refine ⟨disk.placeAt (dir.join (Android.packageFolder package).text), _, "kt",
      not_mem_nameOf (.android package) root, .inr rfl, ?_⟩
    rw [Android.placeAt_rootFile, String.append_assoc]
    rfl

/-- The files for a target have different paths if and only if the roots have different names, and
different paths lead to different places. -/
theorem Target.exists_generate (target : Target) {roots : List Root}
    (h : ∀ root ∈ roots, root.version = currentVersion) :
    ∃ files, target.generate roots = .ok files ∧
      ((files.map CodeFile.path).Nodup ↔ (roots.map target.nameOf).Nodup) ∧
      ∀ (disk : Disk) (dir : Path), ∀ a ∈ files, ∀ b ∈ files,
        disk.placeAt (dir.join a.path) = disk.placeAt (dir.join b.path) → a.path = b.path := by
  refine ⟨target.files roots, target.generate_eq_ok h, ?_⟩
  cases target with
  | ios =>
    refine ⟨Ios.nodup_files roots, fun disk dir a ha b hb => ?_⟩
    exact Ios.path_eq_of_placeAt disk dir ha hb
  | android package =>
    refine ⟨Android.nodup_files package roots, fun disk dir a ha b hb => ?_⟩
    exact Android.path_eq_of_placeAt disk dir ha hb

/-- The files of a compiled project have different paths if and only if the identifiers of its roots
differ. Wherever they are written, all code can be read back if and only if files that share a path
have the same content; otherwise the later file replaces the earlier one. -/
theorem compiled_paths_nodup_iff {disk : Disk} {options : Options} {output : CompileOutput}
    (h : compileProject disk options = .ok output) (target : Target) :
    ∃ files, target.generate output.roots = .ok files ∧
      ((files.map CodeFile.path).Nodup ↔ (output.roots.map target.nameOf).Nodup) ∧
      ∀ (dir : Path) (before : Disk) (written : List Path) (after : Disk),
        (writeCode dir files).Succeeds before written after →
        ((∀ file ∈ files, after.readText (dir.join file.path) = .ok file.content) ↔
          ∀ a ∈ files, ∀ b ∈ files, a.path = b.path → a.content = b.content) := by
  have hversions := fun root hroot => (valid_of_mem_roots h root hroot).version
  obtain ⟨files, hfiles, hnodup, hplaces⟩ := target.exists_generate hversions
  refine ⟨files, hfiles, hnodup, fun dir before written after hwritten => ?_⟩
  exact forall_readText_writeCode_iff hwritten (hplaces before dir)

/-- Two files whose roots have different ids and the same identifier. -/
def clashDisk : Disk where
  tree := .folder [("a-b.tsx", .file "<Text>x</Text>".toUTF8), ("a.b.tsx", .file "<View/>".toUTF8)]

theorem compiled_paths_clash : ∃ output files written after,
    compileProject clashDisk { entries := some ["a-b.tsx", "a.b.tsx"] } = .ok output ∧
      output.rootIds = ["a-b.tsx", "a.b.tsx"] ∧
      Target.ios.generate output.roots = .ok files ∧ ¬ (files.map CodeFile.path).Nodup ∧
      (writeCode ⟨"out"⟩ files).Succeeds clashDisk written after ∧
      ¬ ∀ file ∈ files, after.readText (Path.join ⟨"out"⟩ file.path) = .ok file.content := by
  obtain ⟨output, hcompiled, hids, hnames, hclash, hwrites⟩ : ∃ output,
      compileProject clashDisk { entries := some ["a-b.tsx", "a.b.tsx"] } = .ok output ∧
        output.rootIds = ["a-b.tsx", "a.b.tsx"] ∧
        ¬ (output.roots.map Target.ios.nameOf).Nodup ∧
        (∃ files ∈ (Target.ios.generate output.roots).toOption,
          ∃ a ∈ files, ∃ b ∈ files, a.path = b.path ∧ a.content ≠ b.content) ∧
        (∀ files ∈ (Target.ios.generate output.roots).toOption,
          ((writeCode ⟨"out"⟩ files).outcome clashDisk).1.isOk = true) := by
    refine ⟨_, compileProject_entries clashDisk {} _, ?_, ?_, ?_, ?_⟩ <;> decide +kernel
  obtain ⟨files, hfiles, hnodup, hread⟩ := compiled_paths_nodup_iff hcompiled .ios
  rw [hfiles] at hclash hwrites
  obtain ⟨_, ⟨⟩, a, ha, b, hb, hpath, hcontent⟩ := hclash
  obtain ⟨written, hwritten⟩ := Work.exists_succeeds (hwrites files rfl)
  refine ⟨output, files, written, _, hcompiled, hids, hfiles, mt hnodup.1 hnames, hwritten, ?_⟩
  rw [hread ⟨"out"⟩ clashDisk written _ hwritten]
  exact fun hsame => hcontent (hsame a ha b hb hpath)

end Widgetry
