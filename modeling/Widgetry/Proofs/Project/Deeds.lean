import Widgetry.Project.Artifacts
import Widgetry.Proofs.Bag.Lookup
import Widgetry.Proofs.Files.Folders

/-!
What is done to a disk, step by step: folders are made and files are written. Main statement: doing all
of it again, right after it was done, succeeds and leaves the disk as it is, even where a file was
written several times.
-/

namespace Widgetry

/-! ## Putting again -/

namespace Entry

variable {place target : List String} {tree : Entry}

theorem put_put (place : List String) (tree old value : Entry) :
    put place (put place tree old) value = put place tree value := by
  induction place generalizing tree with
  | nil => rfl
  | cons name rest ih =>
    cases tree with
    | file content => rfl
    | folder entries => simp [put, ih, Bag.put_put]

theorem put_of_get? {value : Entry} (h : get? place tree = some value) :
    put place tree value = tree := by
  induction place generalizing tree with
  | nil => exact (Option.some.inj h).symm
  | cons name rest ih =>
    cases tree with
    | file content => rfl
    | folder entries =>
      obtain ⟨found, hfound, hrest⟩ := Option.bind_eq_some_iff.1 h
      rw [put, hfound, Option.getD_some, ih hrest, Bag.put_of_find? hfound]

/-- Files are replaced in any order. -/
theorem put_comm {a b : ByteArray} (hne : place ≠ target) (hplace : get? place tree = some (.file a))
    (htarget : get? target tree = some (.file b)) (value value' : Entry) :
    put place (put target tree value') value = put target (put place tree value) value' := by
  induction place generalizing tree target with
  | nil =>
    obtain rfl : tree = .file a := Option.some.inj hplace
    cases target with
    | nil => exact absurd rfl hne
    | cons name rest => cases htarget
  | cons name rest ih =>
    cases tree with
    | file content => cases hplace
    | folder entries =>
      cases target with
      | nil => cases htarget
      | cons name' rest' =>
        obtain ⟨found, hfound, hrest⟩ := Option.bind_eq_some_iff.1 hplace
        obtain ⟨found', hfound', hrest'⟩ := Option.bind_eq_some_iff.1 htarget
        by_cases hname : name = name'
        · subst hname
          obtain rfl : found = found' := Option.some.inj (hfound.symm.trans hfound')
          have hne' : rest ≠ rest' := fun heq => hne (heq ▸ rfl)
          simp [put, hfound, Bag.put_put, ih hne' hrest hrest']
        · simp only [put, Bag.find?_put_of_ne _ _ hname, Bag.find?_put_of_ne _ _ (Ne.symm hname),
            hfound, hfound', Option.getD_some]
          rw [Bag.put_comm hname (by simp [hfound]) (by simp [hfound'])]

def HasFile (tree : Entry) (place : List String) : Prop :=
  ∃ content, tree.get? place = some (.file content)

theorem HasFile.put (h : tree.HasFile place) (htarget : tree.HasFile target) (content : ByteArray) :
    (tree.put target (.file content)).HasFile place := by
  obtain ⟨old, hold⟩ := h
  obtain ⟨was, hwas⟩ := htarget
  have hfile : ∀ found, tree.get? target = some found →
      ∃ a b, found = .file a ∧ Entry.file content = .file b := fun found hfound =>
    ⟨was, content, Option.some.inj (hfound.symm.trans hwas), rfl⟩
  obtain ⟨after, hafter, hkept⟩ := kept_put hfile hold
  cases hkept with
  | same => exact ⟨old, hafter⟩
  | changed _ new => exact ⟨new, hafter⟩

/-- Puts files at several places in turn. -/
def putFiles (tree : Entry) (files : List (List String × ByteArray)) : Entry :=
  files.foldl (fun tree file => tree.put file.1 (.file file.2)) tree

/-- What is put at a place is lost when something else is put there later. -/
theorem putFiles_put {files : List (List String × ByteArray)} (hplace : tree.HasFile place)
    (hfiles : ∀ file ∈ files, tree.HasFile file.1) (hlater : place ∈ files.map Prod.fst)
    (content : ByteArray) :
    putFiles (tree.put place (.file content)) files = putFiles tree files := by
  induction files generalizing tree with
  | nil => cases hlater
  | cons file rest ih =>
    obtain ⟨hfile, hrest⟩ := List.forall_mem_cons.1 hfiles
    rw [putFiles, putFiles, List.foldl_cons, List.foldl_cons, ← putFiles, ← putFiles]
    by_cases hsame : place = file.1
    · rw [hsame, put_put]
    · obtain ⟨a, ha⟩ := hplace
      obtain ⟨b, hb⟩ := hfile
      rw [put_comm (Ne.symm hsame) hb ha]
      refine ih (HasFile.put ⟨a, ha⟩ ⟨b, hb⟩ _) (fun other hother => (hrest other hother).put ⟨b, hb⟩ _) ?_
      simpa [hsame] using hlater

/-- A tree holds files as they are after the last of them is put. -/
def Shows (tree : Entry) : List (List String × ByteArray) → Prop
  | [] => True
  | first :: rest =>
    (first.1 ∉ rest.map Prod.fst → tree.get? first.1 = some (.file first.2)) ∧ tree.Shows rest

theorem putFiles_eq_self {files : List (List String × ByteArray)} (hshows : tree.Shows files)
    (hfiles : ∀ file ∈ files, tree.HasFile file.1) : putFiles tree files = tree := by
  induction files with
  | nil => rfl
  | cons file rest ih =>
    obtain ⟨hfile, hrest⟩ := List.forall_mem_cons.1 hfiles
    have hself := ih hshows.2 hrest
    rw [putFiles, List.foldl_cons, ← putFiles]
    by_cases hlater : file.1 ∈ rest.map Prod.fst
    · rw [putFiles_put hfile hrest hlater, hself]
    · rw [put_of_get? (hshows.1 hlater), hself]

end Entry

/-! ## Work -/

/-- Work in two steps succeeds if each of them does. -/
theorem bind_eq_ok {ε σ α β : Type} {first : ExceptT ε (StateM σ) α}
    {next : α → ExceptT ε (StateM σ) β} {before after : σ} {result : β} :
    (first >>= next) before = (.ok result, after) ↔
      ∃ value middle, first before = (.ok value, middle) ∧
        next value middle = (.ok result, after) := by
  simp only [bind, ExceptT.bind, ExceptT.mk, StateT.bind, ExceptT.bindCont]
  rcases hfirst : first before with ⟨outcome, middle⟩
  cases outcome with
  | error fault =>
    refine iff_of_false (fun h => ?_) ?_
    · cases h
    · rintro ⟨value, middle, h, -⟩
      cases h
  | ok value =>
    constructor
    · exact fun h => ⟨value, middle, rfl, h⟩
    · rintro ⟨value, middle, h, hnext⟩
      cases h
      exact hnext

namespace Work

variable {α β : Type} {before after : Disk}

/-- What comes out of some work, and the disk that it leaves behind. -/
def outcome (work : Work α) (disk : Disk) : Except Error α × Disk :=
  Id.run (StateT.run (ExceptT.run work) disk)

def Succeeds (work : Work α) (before : Disk) (result : α) (after : Disk) : Prop :=
  work.outcome before = (.ok result, after)

theorem exists_succeeds {work : Work α} (h : (work.outcome before).1.isOk = true) :
    ∃ result, work.Succeeds before result (work.outcome before).2 := by
  rcases hrun : work.outcome before with ⟨_ | result, after⟩
  · simp [hrun, Except.isOk, Except.toBool] at h
  · exact ⟨result, hrun⟩

theorem succeeds_bind {first : Work α} {next : α → Work β} {result : β} :
    Succeeds (first >>= next) before result after ↔
      ∃ value middle, Succeeds first before value middle ∧
        Succeeds (next value) middle result after :=
  bind_eq_ok

theorem succeeds_pure {value result : α} :
    Succeeds (pure value) before result after ↔ value = result ∧ before = after := by
  constructor
  · intro h
    cases h
    exact ⟨rfl, rfl⟩
  · rintro ⟨rfl, rfl⟩
    rfl

theorem succeeds_writeText {path : Path} {text : String} {result : Unit} :
    Succeeds (writeText path text) before result after ↔
      before.writeText path text = .ok after := by
  simp only [Succeeds, outcome, ExceptT.run, StateT.run, Id.run, writeText, change]
  cases before.writeText path text with
  | error fault =>
    refine iff_of_false (fun h => ?_) (fun h => ?_) <;> cases h
  | ok made =>
    constructor <;> intro h <;> cases h <;> rfl

theorem succeeds_createFolders {path : Path} {result : Unit} :
    Succeeds (createFolders path) before result after ↔
      before.createFolders path = (.ok (), after) := by
  simp only [Succeeds, outcome, ExceptT.run, StateT.run, Id.run, createFolders, attempt]
  rcases before.createFolders path with ⟨outcome, made⟩
  cases outcome with
  | error fault =>
    refine iff_of_false (fun h => ?_) (fun h => ?_) <;> cases h
  | ok value =>
    constructor <;> intro h <;> cases h <;> rfl

end Work

/-! ## Deeds -/

inductive Deed where
  | folders (path : Path)
  | write (path : Path) (text : String)

namespace Deed

open Disk Work

def work : Deed → Work Unit
  | .folders path => Work.createFolders path
  | .write path text => Work.writeText path text

/-- The place and the content of a file that is written. -/
def file? (disk : Disk) : Deed → Option (List String × ByteArray)
  | .folders _ => none
  | .write path text => some (disk.placeAt path, text.toUTF8)

/-- The files that are written, in turn. -/
def files (disk : Disk) (deeds : List Deed) : List (List String × ByteArray) :=
  deeds.filterMap (file? disk)

end Deed

/-- The deeds are all done, one after the other. -/
inductive Does : List Deed → Disk → Disk → Prop
  | nil (disk : Disk) : Does [] disk disk
  | cons {deed : Deed} {rest : List Deed} {before middle after : Disk}
      (h : deed.work.Succeeds before () middle) (hrest : Does rest middle after) :
      Does (deed :: rest) before after

section

open Disk Work

variable {deed : Deed} {deeds rest : List Deed} {before middle after disk : Disk}

theorem Does.append (h : Does deeds before middle) (hrest : Does rest middle after) :
    Does (deeds ++ rest) before after := by
  induction h with
  | nil disk => exact hrest
  | cons hdeed _ ih => exact .cons hdeed (ih hrest)

theorem does_append (h : Does (deeds ++ rest) before after) :
    ∃ middle, Does deeds before middle ∧ Does rest middle after := by
  induction deeds generalizing before with
  | nil => exact ⟨before, .nil before, h⟩
  | cons deed others ih =>
    cases h with
    | cons hdeed hothers =>
      obtain ⟨middle, hmiddle, hrest⟩ := ih hothers
      exact ⟨middle, .cons hdeed hmiddle, hrest⟩

/-- One deed changes no file but the one that it writes. -/
theorem edits_work (h : deed.work.Succeeds before () after) :
    Edits (fun place => ∃ file ∈ deed.file? before, place = file.1) before after := by
  cases deed with
  | folders path =>
    have hedits := createFolders_edits (fun _ => False) path before
    rw [succeeds_createFolders.1 h] at hedits
    exact hedits.mono fun _ => False.elim
  | write path text =>
    refine .single ((write_edit (succeeds_writeText.1 h)).mono fun place hplace => ?_)
    exact ⟨_, rfl, hplace⟩

theorem files_eq_of_here (hhere : after.here = before.here) (deeds : List Deed) :
    Deed.files after deeds = Deed.files before deeds := by
  refine List.filterMap_congr fun deed _ => ?_
  cases deed with
  | folders path => rfl
  | write path text => simp only [Deed.file?, placeAt, hhere]

theorem Does.edits (h : Does deeds before after) :
    Edits (fun place => place ∈ (Deed.files before deeds).map Prod.fst) before after := by
  induction h with
  | nil disk => exact .refl
  | cons hdeed _ ih =>
    have hedits := edits_work hdeed
    rw [files_eq_of_here hedits.keeps.here] at ih
    refine (hedits.mono ?_).trans (ih.mono ?_)
    · rintro _ ⟨file, hfile, rfl⟩
      rw [Deed.files, List.filterMap_cons_some hfile]
      exact List.mem_cons_self
    · intro place hplace
      rw [Deed.files, List.filterMap_cons]
      split
      · exact hplace
      · exact List.mem_cons_of_mem _ hplace

theorem Does.keeps (h : Does deeds before after) :
    Keeps (fun place => place ∈ (Deed.files before deeds).map Prod.fst) before after :=
  h.edits.keeps

/-- A file can be read unless a later deed writes to its place. -/
theorem Does.readText {front : List Deed} {path : Path} {text : String}
    (h : Does (front ++ .write path text :: rest) before after)
    (hlast : before.placeAt path ∉ (Deed.files before rest).map Prod.fst) :
    after.readText path = .ok text := by
  obtain ⟨middle, hfront, hlater⟩ := does_append h
  cases hlater with
  | cons hwrite hrest =>
    obtain ⟨hkeeps, hread⟩ := writeText_keeps (succeeds_writeText.1 hwrite)
    have hhere := hkeeps.here.trans hfront.keeps.here
    refine hrest.keeps.readText hread ?_
    rwa [files_eq_of_here hhere, placeAt, hhere]

/-! ## Doing it again -/

/-- A deed that would only write a file anew. -/
inductive Ready (disk : Disk) : Deed → Prop
  | folders {path : Path} (h : path.components = [] ∨ disk.isFolder path = true) :
      Ready disk (.folders path)
  | write {path : Path} {text name : String} {place : List String}
      (hplace : disk.placeOf path = .ok (place, .name name)) (hname : namesFolder path = false)
      (hfile : disk.tree.HasFile (place ++ [name])) : Ready disk (.write path text)

theorem Disk.Keeps.hasFile {mayChange : List String → Prop} (h : Keeps mayChange before after)
    {place : List String} (hfile : before.tree.HasFile place) : after.tree.HasFile place := by
  obtain ⟨content, hcontent⟩ := hfile
  obtain ⟨entry, hentry, hkept⟩ := h.entries place _ hcontent
  cases hkept with
  | same => exact ⟨content, hentry⟩
  | changed _ new => exact ⟨new, hentry⟩

theorem Ready.mono {mayChange : List String → Prop} (h : Ready before deed)
    (hkeeps : Keeps mayChange before after) : Ready after deed := by
  cases h with
  | folders h => exact .folders (h.imp_right hkeeps.isFolder)
  | write hplace hname hfile => exact .write (hkeeps.placeOf hplace) hname (hkeeps.hasFile hfile)

theorem ready_of_succeeds (h : deed.work.Succeeds before () after) : Ready after deed := by
  have hkeeps := (edits_work h).keeps
  cases deed with
  | folders path => exact .folders (isFolder_of_createFolders (succeeds_createFolders.1 h))
  | write path text =>
    obtain ⟨place, name, hplace, hname, -, rfl⟩ := write_eq_ok (succeeds_writeText.1 h)
    obtain ⟨-, entries, -, -, hget⟩ := placeOf_eq_ok hplace
    exact .write (hkeeps.placeOf hplace) hname ⟨_, Entry.get?_put_self name _ hget⟩

theorem Does.ready (h : Does deeds before after) : ∀ deed ∈ deeds, Ready after deed := by
  induction h with
  | nil disk => exact List.forall_mem_nil _
  | cons hdeed hrest ih =>
    exact List.forall_mem_cons.2 ⟨(ready_of_succeeds hdeed).mono hrest.keeps, ih⟩

/-- After the deeds every file is as the last of them left it. -/
theorem Does.shows (h : Does deeds before after) : after.tree.Shows (Deed.files before deeds) := by
  induction h with
  | nil disk => trivial
  | cons hdeed hrest ih =>
    rename_i deed rest before middle after
    have hkeeps := (edits_work hdeed).keeps
    have hlater := hrest.keeps
    rw [files_eq_of_here hkeeps.here] at ih hlater
    cases deed with
    | folders path => exact ih
    | write path text =>
      refine ⟨fun hlast => ?_, ih⟩
      obtain ⟨-, hlocate⟩ := write_keeps (succeeds_writeText.1 hdeed)
      obtain ⟨-, -, hget, -⟩ := locate_eq_file.1 hlocate
      obtain ⟨entry, hentry, hkept⟩ := hlater.entries _ _ hget
      cases hkept with
      | same => exact hentry
      | changed _ _ hchange => exact absurd hchange hlast

/-- Deeds that would only write files anew are done, and they do no more than that. -/
theorem does_of_ready (h : ∀ deed ∈ deeds, Ready disk deed) :
    Does deeds disk { disk with tree := disk.tree.putFiles (Deed.files disk deeds) } := by
  induction deeds generalizing disk with
  | nil => exact .nil disk
  | cons deed rest ih =>
    obtain ⟨hdeed, hrest⟩ := List.forall_mem_cons.1 h
    cases hdeed with
    | folders hfolder =>
      exact .cons (succeeds_createFolders.2 (createFolders_of_isFolder hfolder)) (ih hrest)
    | write hplace hname hfile =>
      rename_i path text name place
      obtain ⟨was, hwas⟩ := hfile
      have hwrite : disk.writeText path text = .ok _ := write_of_file hplace hname hwas text.toUTF8
      have hkeeps := (write_keeps hwrite).1
      have hlater := ih fun deed hdeed => (hrest deed hdeed).mono hkeeps
      rw [files_eq_of_here hkeeps.here] at hlater
      rw [← placeAt_of_placeOf hplace] at hwrite hlater
      exact .cons (succeeds_writeText.2 hwrite) hlater

/-- Doing the same again changes nothing. -/
theorem Does.again (h : Does deeds before after) : Does deeds after after := by
  have hfiles := files_eq_of_here h.keeps.here deeds
  have hagain := does_of_ready h.ready
  have hself : after.tree.putFiles (Deed.files after deeds) = after.tree := by
    rw [hfiles]
    refine Entry.putFiles_eq_self h.shows fun file hfile => ?_
    rw [← hfiles] at hfile
    obtain ⟨deed, hdeed, hwritten⟩ := List.mem_filterMap.1 hfile
    cases h.ready deed hdeed with
    | folders => cases hwritten
    | write hplace _ hthere =>
      obtain rfl := Option.some.inj hwritten
      rwa [placeAt_of_placeOf hplace]
  rwa [hself] at hagain

end

end Widgetry
