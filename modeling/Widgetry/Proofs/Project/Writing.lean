import Widgetry.Proofs.Project.Deeds

/-!
Writing generated code. Each file is written in turn, so of several files at one place the last one
stays and all others are lost.
-/

namespace Widgetry

open Disk Work

/-! ## Writing as deeds -/

/-- What is done to write one file: the folder that it stands in is made first. -/
def fileDeeds (dir : Path) (file : CodeFile) : List Deed :=
  (dir.join file.path).parent?.toList.map .folders ++ [.write (dir.join file.path) file.content]

/-- What is done to write code. -/
def codeDeeds (dir : Path) (files : List CodeFile) : List Deed := files.flatMap (fileDeeds dir)

variable {dir : Path} {file : CodeFile} {files rest : List CodeFile} {before after : Disk}
  {written : List Path}

theorem succeeds_writeCode : Succeeds (writeCode dir files) before written after ↔
    Does (codeDeeds dir files) before after ∧
      written = files.map fun file => dir.join file.path := by
  induction files generalizing before after written with
  | nil =>
    rw [writeCode, succeeds_pure]
    constructor
    · rintro ⟨rfl, rfl⟩
      exact ⟨.nil before, rfl⟩
    · rintro ⟨⟨⟩, rfl⟩
      exact ⟨rfl, rfl⟩
  | cons file rest ih =>
    have hrest : ∀ {before written}, Succeeds (do
          Work.writeText (dir.join file.path) file.content
          return dir.join file.path :: (← writeCode dir rest)) before written after ↔
        Does (.write (dir.join file.path) file.content :: codeDeeds dir rest) before after ∧
          written = (file :: rest).map fun file => dir.join file.path := by
      intro before written
      simp only [succeeds_bind, ih, succeeds_pure]
      constructor
      · rintro ⟨_, middle, hwrite, _, last, ⟨hlater, rfl⟩, rfl, rfl⟩
        exact ⟨.cons hwrite hlater, rfl⟩
      · rintro ⟨_ | ⟨hwrite, hlater⟩, rfl⟩
        exact ⟨(), _, hwrite, _, after, ⟨hlater, rfl⟩, rfl, rfl⟩
    rw [writeCode, codeDeeds, List.flatMap_cons, fileDeeds]
    cases (dir.join file.path).parent? with
    | none => exact hrest
    | some parent =>
      rw [succeeds_bind]
      constructor
      · rintro ⟨_, made, hmade, h⟩
        exact (hrest.1 h).imp_left (.cons hmade)
      · rintro ⟨_ | ⟨hmade, h⟩, rfl⟩
        exact ⟨(), _, hmade, hrest.2 ⟨h, rfl⟩⟩

theorem files_codeDeeds (disk : Disk) (dir : Path) (files : List CodeFile) :
    Deed.files disk (codeDeeds dir files)
      = files.map fun file => (disk.placeAt (dir.join file.path), file.content.toUTF8) := by
  induction files with
  | nil => rfl
  | cons file rest ih =>
    have hfile : Deed.files disk (fileDeeds dir file)
        = [(disk.placeAt (dir.join file.path), file.content.toUTF8)] := by
      rw [fileDeeds]
      cases (dir.join file.path).parent? <;> rfl
    rw [codeDeeds, List.flatMap_cons, Deed.files, List.filterMap_append, ← Deed.files, hfile,
      ← Deed.files, ← codeDeeds, ih]
    rfl

/-- A file is on the disk unless a later one is written to its place. -/
theorem readText_writeCode {front : List CodeFile}
    (h : Succeeds (writeCode dir (front ++ file :: rest)) before written after)
    (hlast : ∀ other ∈ rest,
      before.placeAt (dir.join other.path) ≠ before.placeAt (dir.join file.path)) :
    after.readText (dir.join file.path) = .ok file.content := by
  obtain ⟨hdoes, -⟩ := succeeds_writeCode.1 h
  have hsplit : codeDeeds dir (front ++ file :: rest)
      = (codeDeeds dir front ++ (dir.join file.path).parent?.toList.map .folders)
        ++ .write (dir.join file.path) file.content :: codeDeeds dir rest := by
    simp [codeDeeds, fileDeeds]
  rw [hsplit] at hdoes
  refine hdoes.readText ?_
  rw [files_codeDeeds]
  intro hmem
  obtain ⟨_, hwritten, hplace⟩ := List.mem_map.1 hmem
  obtain ⟨other, hother, rfl⟩ := List.mem_map.1 hwritten
  dsimp only at hplace
  exact hlast other hother hplace

/-- Of the files of a path one is the last. -/
theorem exists_last {path : String} (h : ∃ file ∈ files, file.path = path) :
    ∃ front last rest, files = front ++ last :: rest ∧ last.path = path ∧
      ∀ other ∈ rest, other.path ≠ path := by
  induction files with
  | nil => simp at h
  | cons first others ih =>
    by_cases hlater : ∃ file ∈ others, file.path = path
    · obtain ⟨front, last, rest, rfl, hlast⟩ := ih hlater
      exact ⟨first :: front, last, rest, rfl, hlast⟩
    · have hrest : ∀ other ∈ others, other.path ≠ path :=
        fun other hmem hpath => hlater ⟨other, hmem, hpath⟩
      obtain ⟨file, hmem, hpath⟩ := h
      rcases List.mem_cons.1 hmem with rfl | hmem
      · exact ⟨[], file, others, rfl, hpath, hrest⟩
      · exact absurd hpath (hrest file hmem)

/-- All code is on the disk if and only if files that share a path have the same content. -/
theorem forall_readText_writeCode_iff (h : Succeeds (writeCode dir files) before written after)
    (hplaces : ∀ a ∈ files, ∀ b ∈ files,
      before.placeAt (dir.join a.path) = before.placeAt (dir.join b.path) → a.path = b.path) :
    (∀ file ∈ files, after.readText (dir.join file.path) = .ok file.content) ↔
      ∀ a ∈ files, ∀ b ∈ files, a.path = b.path → a.content = b.content := by
  constructor
  · intro hread a ha b hb hpath
    have hab := (hread a ha).symm.trans (hpath ▸ hread b hb)
    exact Except.ok.inj hab
  · intro hsame file hmem
    obtain ⟨front, last, rest, rfl, hpath, hrest⟩ := exists_last ⟨file, hmem, rfl⟩
    have hlast : last ∈ front ++ last :: rest := by simp
    rw [← hpath, hsame file hmem last hlast hpath.symm]
    refine readText_writeCode h fun other hother hplace => ?_
    have hpaths := hplaces other (by simp [hother]) last hlast hplace
    exact hrest other hother (hpaths.trans hpath)

end Widgetry
