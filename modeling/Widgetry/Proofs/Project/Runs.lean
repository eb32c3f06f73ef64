import Widgetry.Project.Compile

/-!
Runs over the files of a project. What becomes of a file depends on the files before it through the
ids of their roots alone. Main statement: a file that gives no root can be taken out of a run, and all
that is lost is what the run says about this file.
-/

namespace Widgetry

/-! ## Outcomes -/

namespace FileOutcome

def root? : FileOutcome → Option Root
  | .compiled root => some root
  | .rootless | .failed _ => none

/-- What is reported about a file of this name. -/
def failures (file : String) : FileOutcome → List (String × Error)
  | .failed error => [(file, error)]
  | .compiled _ | .rootless => []

end FileOutcome

namespace CompileOutput

/-- Adds what became of several files in turn. -/
def addAll (output : CompileOutput) (outcomes : List (String × FileOutcome)) : CompileOutput :=
  outcomes.foldl (fun output outcome => output.add outcome.1 outcome.2) output

theorem roots_add (output : CompileOutput) (file : String) (outcome : FileOutcome) :
    (output.add file outcome).roots = output.roots ++ outcome.root?.toList := by
  cases outcome <;> simp [add, FileOutcome.root?]

theorem failures_add (output : CompileOutput) (file : String) (outcome : FileOutcome) :
    (output.add file outcome).failures = output.failures ++ outcome.failures file := by
  cases outcome <;> simp [add, FileOutcome.failures]

theorem rootIds_add (output : CompileOutput) (file : String) (outcome : FileOutcome) :
    (output.add file outcome).rootIds = output.rootIds ++ outcome.root?.toList.map Root.rootId := by
  rw [rootIds, roots_add, List.map_append, rootIds]

theorem roots_addAll (output : CompileOutput) (outcomes : List (String × FileOutcome)) :
    (output.addAll outcomes).roots = output.roots ++ outcomes.filterMap (·.2.root?) := by
  induction outcomes generalizing output with
  | nil => simp [addAll]
  | cons outcome rest ih =>
    rw [addAll, List.foldl_cons, ← addAll, ih, roots_add, List.append_assoc]
    cases h : outcome.2.root? <;> simp [h]

theorem failures_addAll (output : CompileOutput) (outcomes : List (String × FileOutcome)) :
    (output.addAll outcomes).failures
      = output.failures ++ outcomes.flatMap fun outcome => outcome.2.failures outcome.1 := by
  induction outcomes generalizing output with
  | nil => simp [addAll]
  | cons outcome rest ih =>
    rw [addAll, List.foldl_cons, ← addAll, ih, failures_add, List.append_assoc, List.flatMap_cons]

end CompileOutput

/-! ## Runs -/

section

variable (read : Path → Except FileFault String) (options : Options)

/-- What becomes of a file after roots with the ids `taken`. -/
def outcomeAfter (taken : List String) (path : Path) : FileOutcome :=
  compileFile read options.asWidget taken path (relativeName options.projectRoot path)

/-- What becomes of the files of a run, each with its name. -/
def outcomesFrom : List String → List Path → List (String × FileOutcome)
  | _, [] => []
  | taken, path :: rest =>
    (relativeName options.projectRoot path, outcomeAfter read options taken path)
      :: outcomesFrom
        (taken ++ (outcomeAfter read options taken path).root?.toList.map Root.rootId) rest

/-- A run adds the outcomes of its files, and it reads nothing but ids from what was there before. -/
theorem compileFrom_eq_addAll (output : CompileOutput) (files : List Path) :
    compileFrom read options output files
      = output.addAll (outcomesFrom read options output.rootIds files) := by
  induction files generalizing output with
  | nil => rfl
  | cons path rest ih =>
    rw [compileFrom, ih, outcomesFrom, CompileOutput.rootIds_add]
    rfl

theorem compileFrom_append (output : CompileOutput) (front rest : List Path) :
    compileFrom read options output (front ++ rest)
      = compileFrom read options (compileFrom read options output front) rest := by
  induction front generalizing output with
  | nil => rfl
  | cons path front ih => rw [List.cons_append, compileFrom, compileFrom, ih]

/-- What holds for the root of every file holds for all roots of a run. -/
theorem forall_mem_roots_compileFrom {P : Root → Prop} {files : List Path}
    (hfile : ∀ path ∈ files, ∀ taken root,
      outcomeAfter read options taken path = .compiled root → P root)
    {output : CompileOutput} (houtput : ∀ root ∈ output.roots, P root) :
    ∀ root ∈ (compileFrom read options output files).roots, P root := by
  induction files generalizing output with
  | nil => exact houtput
  | cons path rest ih =>
    obtain ⟨hpath, hrest⟩ := List.forall_mem_cons.1 hfile
    rw [compileFrom]
    refine ih hrest ?_
    rw [CompileOutput.roots_add, List.forall_mem_append]
    refine ⟨houtput, fun root hroot => hpath output.rootIds root ?_⟩
    change root ∈ (outcomeAfter read options output.rootIds path).root?.toList at hroot
    cases houtcome : outcomeAfter read options output.rootIds path with
    | compiled compiled =>
      rw [houtcome] at hroot
      obtain rfl : root = compiled := by simpa [FileOutcome.root?] using hroot
      rfl
    | rootless => simp [houtcome, FileOutcome.root?] at hroot
    | failed error => simp [houtcome, FileOutcome.root?] at hroot

/-- A run depends on the texts of its files alone. -/
theorem compileFrom_congr {read' : Path → Except FileFault String} {files : List Path}
    (h : ∀ path ∈ files, read' path = read path) (output : CompileOutput) :
    compileFrom read' options output files = compileFrom read options output files := by
  induction files generalizing output with
  | nil => rfl
  | cons path rest ih =>
    obtain ⟨hpath, hrest⟩ := List.forall_mem_cons.1 h
    have houtcome : ∀ taken name, compileFile read' options.asWidget taken path name
        = compileFile read options.asWidget taken path name := fun taken name => by
      rw [compileFile, compileFile, hpath]
    rw [compileFrom, compileFrom, ih hrest, houtcome]

/-- Where files are named, nothing depends on the list of their names any more. -/
theorem compileFrom_withEntries (entries : Option (List String)) (output : CompileOutput)
    (files : List Path) :
    compileFrom read { options with entries } output files
      = compileFrom read options output files := by
  induction files generalizing output with
  | nil => rfl
  | cons path rest ih =>
    rw [compileFrom, ih]
    rfl

theorem outcomesFrom_cons_of_root?_eq_none {taken : List String} {path : Path} (rest : List Path)
    (h : (outcomeAfter read options taken path).root? = none) :
    outcomesFrom read options taken (path :: rest)
      = (relativeName options.projectRoot path, outcomeAfter read options taken path)
        :: outcomesFrom read options taken rest := by
  rw [outcomesFrom, h, Option.toList_none, List.map_nil, List.append_nil]

end

theorem compileProject_eq_ok {disk : Disk} {options : Options} {output : CompileOutput}
    (h : compileProject disk options = .ok output) :
    ∃ files, projectFiles disk options = .ok files ∧
      output = compileFrom disk.readText options {} files := by
  unfold compileProject at h
  cases hfiles : projectFiles disk options with
  | error error =>
    rw [hfiles] at h
    cases h
  | ok files =>
    rw [hfiles] at h
    cases h
    exact ⟨files, rfl, rfl⟩

/-- The files of a project that names them are compiled as they are named. -/
theorem compileProject_entries (disk : Disk) (options : Options) (entries : List String) :
    compileProject disk { options with entries := some entries }
      = .ok (compileFrom disk.readText options {} (entries.map options.projectRoot.join)) := by
  rw [← compileFrom_withEntries _ _ (some entries)]
  rfl

/-- A file that gives no root at its place among the files of a project can be left out: the roots
stay the same, and so does all that is reported about the files before and after it. -/
theorem compileProject_without {disk : Disk} {options : Options} (front : List String)
    (entry : String) (rest : List String) {before : CompileOutput}
    (hbefore : compileProject disk { options with entries := some front } = .ok before)
    (hrootless : (outcomeAfter disk.readText options before.rootIds
      (options.projectRoot.join entry)).root? = none) :
    ∃ full less after,
      compileProject disk { options with entries := some (front ++ entry :: rest) } = .ok full ∧
      compileProject disk { options with entries := some (front ++ rest) } = .ok less ∧
      less.roots = full.roots ∧
      less.failures = before.failures ++ after ∧
      full.failures = before.failures
        ++ (outcomeAfter disk.readText options before.rootIds
          (options.projectRoot.join entry)).failures
            (relativeName options.projectRoot (options.projectRoot.join entry))
        ++ after := by
  rw [compileProject_entries, Except.ok.injEq] at hbefore
  simp only [compileProject_entries, List.map_append, List.map_cons, compileFrom_append, hbefore,
    Except.ok.injEq]
  -- Both runs go on from the same ids, so what becomes of the files behind is the same.
  refine ⟨_, _, (outcomesFrom disk.readText options before.rootIds
    (rest.map options.projectRoot.join)).flatMap fun outcome => outcome.2.failures outcome.1,
    rfl, rfl, ?_⟩
  rw [compileFrom_eq_addAll, compileFrom_eq_addAll,
    outcomesFrom_cons_of_root?_eq_none _ _ _ hrootless]
  refine ⟨?_, ?_, ?_⟩
  · simp only [CompileOutput.roots_addAll, List.filterMap_cons, hrootless]
  · rw [CompileOutput.failures_addAll]
  · rw [CompileOutput.failures_addAll, List.flatMap_cons, List.append_assoc]

/-- A folder with a file that holds a text and one that is cut off. -/
def draftDisk : Disk where
  tree := .folder [("a.tsx", .file "<Text>x</Text>".toUTF8), ("b.tsx", .file "<Text>x".toUTF8)]

/-- The file that is cut off is reported, and leaving it out changes neither the two roots of the
file around it nor their ids. -/
theorem compileProject_without_draft : ∃ full less,
    compileProject draftDisk { entries := some ["a.tsx", "b.tsx", "a.tsx"] } = .ok full ∧
    compileProject draftDisk { entries := some ["a.tsx", "a.tsx"] } = .ok less ∧
    full.rootIds = ["a.tsx", "a.tsx_2"] ∧ full.failures.map Prod.fst = ["b.tsx"] ∧
    less.roots = full.roots ∧ less.failures = [] := by
  obtain ⟨full, less, after, hfull, hless, hroots, -, -⟩ :=
    compileProject_without ["a.tsx"] "b.tsx" ["a.tsx"]
      (compileProject_entries draftDisk {} ["a.tsx"])
      (Option.isNone_iff_eq_none.1 (by decide +kernel))
  refine ⟨full, less, hfull, hless, ?_, ?_, hroots, ?_⟩
  · rw [compileProject_entries, Except.ok.injEq] at hfull
    rw [← hfull]
    decide +kernel
  · rw [compileProject_entries, Except.ok.injEq] at hfull
    rw [← hfull]
    decide +kernel
  · rw [compileProject_entries, Except.ok.injEq] at hless
    rw [← hless]
    exact List.isEmpty_iff.1 (by decide +kernel)

end Widgetry
