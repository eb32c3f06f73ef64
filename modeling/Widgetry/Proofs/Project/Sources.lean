import Widgetry.Proofs.Bag.Sorted
import Widgetry.Proofs.Files.Folders
import Widgetry.Proofs.Project.Ids

/-!
The sources of a project while other files are written into it. New folders hold no sources, and files
with other names are none, so that the search finds what it found before. Main statement: a project
whose files are found, not named, is compiled to the same output after any number of such edits.
-/

namespace Widgetry

open Disk

/-! ## Names -/

/-- A name under which no search finds a source. -/
def IsQuiet (name : String) : Prop :=
  Path.IsName name ∧ ∀ ending ∈ (Path.splitName name).2, ending ≠ "tsx" ∧ ending ≠ "jsx"

theorem isSource_iff {path : Path} : isSource path = true ↔ ∃ name ending,
    path.fileName? = some name ∧ (Path.splitName name).2 = some ending ∧
      (ending = "tsx" ∨ ending = "jsx") := by
  rw [isSource]
  constructor
  · intro h
    split at h
    · next ending hending =>
      obtain ⟨name, hname, hsplit⟩ := Option.bind_eq_some_iff.1 hending
      exact ⟨name, ending, hname, hsplit, by simpa using h⟩
    · cases h
  · rintro ⟨name, ending, hname, hsplit, hending⟩
    have hextension : path.extension? = some ending := by simp [Path.extension?, hname, hsplit]
    simpa [hextension] using hending

theorem IsQuiet.isSource_join {name : String} (h : IsQuiet name) (folder : Path) :
    isSource (folder.join name) = false := by
  refine Bool.eq_false_iff.2 fun hsource => ?_
  obtain ⟨found, ending, hfound, hsplit, hending⟩ := isSource_iff.1 hsource
  have hname : (folder.join name).fileName? = some name :=
    Path.fileName?_join folder h.1.2 (by rw [h.1.segments, List.getLast?_singleton])
  obtain rfl : name = found := Option.some.inj (hname.symm.trans hfound)
  obtain ⟨htsx, hjsx⟩ := h.2 ending hsplit
  exact hending.elim htsx hjsx

/-- A place where a file may be written without changing the sources of any project. -/
def IsQuietPlace (place : List String) : Prop := ∀ name ∈ place.getLast?, IsQuiet name

theorem IsQuietPlace.tail {name : String} {rest : List String} (h : IsQuietPlace (name :: rest)) :
    IsQuietPlace rest := by
  intro last hlast
  refine h last ?_
  rwa [List.getLast?_cons_of_ne_nil (by rintro rfl; cases hlast)]

theorem not_isQuietPlace {path : Path} (disk : Disk) (h : isSource path = true) :
    ¬ IsQuietPlace (disk.placeAt path) := by
  obtain ⟨name, ending, hname, hsplit, hending⟩ := isSource_iff.1 h
  obtain ⟨folder, hplace⟩ := placeAt_of_fileName? disk hname
  intro hquiet
  obtain ⟨htsx, hjsx⟩ := (hquiet name (by simp [hplace])).2 ending hsplit
  exact hending.elim htsx hjsx

/-! ## Searching after an edit -/

theorem sourcesIn_put {name : String} {value : Entry} {entries : List (String × Entry)}
    {excluded : List String} {folder : Path}
    (h : sourcesOf excluded folder name value.listing
      = (Bag.find? name entries).elim [] fun entry => sourcesOf excluded folder name entry.listing) :
    sourcesIn excluded folder (Entry.listings (Bag.put name value entries))
      = sourcesIn excluded folder (Entry.listings entries) := by
  induction entries with
  | nil => simpa [Bag.put, Bag.find?, Entry.listings, sourcesIn] using h
  | cons pair rest ih =>
    obtain ⟨key, old⟩ := pair
    by_cases hkey : key = name
    · subst hkey
      simp only [Bag.find?, if_true, Option.elim_some] at h
      simp only [Bag.put, if_true, Entry.listings, sourcesIn, h]
    · simp only [Bag.find?, hkey, if_false] at h
      simp only [Bag.put, hkey, if_false, Entry.listings, sourcesIn, ih h]

namespace Entry

/-- Putting an entry at a place gives no new sources: it is an empty folder where nothing was, or a
file with a quiet name that takes the place of none or of another file. -/
inductive PutsQuietly (place : List String) (tree : Entry) : Entry → Prop
  | folder (h : tree.get? place = none) : PutsQuietly place tree (.folder [])
  | file {content : ByteArray} (hplace : IsQuietPlace place)
      (h : ∀ old, tree.get? place = some old → ∃ was, old = .file was) :
      PutsQuietly place tree (.file content)

variable {name : String} {place rest target : List String} {entries : List (String × Entry)}
  {tree value found : Entry}

theorem PutsQuietly.ne_nil (h : PutsQuietly place (.folder entries) value) : place ≠ [] := by
  rintro rfl
  cases h with
  | folder h => cases h
  | file _ h =>
    obtain ⟨was, hwas⟩ := h _ rfl
    cases hwas

/-- Inside the entry that a place leads through, the rest of the place is left. -/
theorem PutsQuietly.inside (hfound : Bag.find? name entries = some found)
    (h : PutsQuietly (name :: rest) (.folder entries) value) : PutsQuietly rest found value := by
  have hget : get? (name :: rest) (.folder entries) = get? rest found := by simp [get?, hfound]
  cases h with
  | folder h => exact .folder (hget ▸ h)
  | file hplace h => exact .file hplace.tail (hget ▸ h)

theorem PutsQuietly.fresh (hrest : rest ≠ []) (h : PutsQuietly (name :: rest) tree value) :
    PutsQuietly rest (.folder []) value := by
  have hget : get? rest (.folder []) = none := by
    obtain ⟨first, others, rfl⟩ := List.exists_cons_of_ne_nil hrest
    rfl
  cases h with
  | folder => exact .folder hget
  | file hplace => exact .file hplace.tail fun old hold => absurd (hget.symm.trans hold) (by simp)

/-- What a quiet put makes of a folder has the sources that the folder had. -/
theorem sourcesIn_put (h : PutsQuietly place (.folder entries) value) :
    ∃ entries', put place (.folder entries) value = .folder entries' ∧
      ∀ excluded folder, sourcesIn excluded folder (listings entries')
        = sourcesIn excluded folder (listings entries) := by
  induction place generalizing entries with
  | nil => exact absurd rfl h.ne_nil
  | cons name rest ih =>
    -- Only the entry that the place leads through is another one, so its sources decide.
    refine ⟨_, rfl, fun excluded folder => Widgetry.sourcesIn_put ?_⟩
    by_cases hrest : rest = []
    · subst hrest
      cases h with
      | folder h =>
        have hfind : Bag.find? name entries = none := by simpa [get?] using h
        simp [put, hfind, listing, listings, sourcesOf, sourcesIn]
      | file hquiet h =>
        have hname := (hquiet name rfl).isSource_join folder
        cases hfind : Bag.find? name entries with
        | none => simp [put, listing, sourcesOf, hname]
        | some old =>
          obtain ⟨was, rfl⟩ := h old (by simp [get?, hfind])
          simp [put, listing, sourcesOf, hname]
    · cases hfind : Bag.find? name entries with
      | none =>
        obtain ⟨made, hmade, hsources⟩ := ih (h.fresh hrest)
        simp [hmade, listing, listings, sourcesOf, hsources, sourcesIn]
      | some found =>
        cases found with
        | file content =>
          obtain ⟨first, others, rfl⟩ := List.exists_cons_of_ne_nil hrest
          rfl
        | folder inner =>
          obtain ⟨made, hmade, hsources⟩ := ih (h.inside hfind)
          simp [hmade, listing, sourcesOf, hsources]

theorem sources_put (h : PutsQuietly target tree value)
    (hfolder : get? place tree = some (.folder entries)) :
    ∃ entries', get? place (put target tree value) = some (.folder entries') ∧
      ∀ excluded folder, sourcesIn excluded folder (listings entries')
        = sourcesIn excluded folder (listings entries) := by
  induction place generalizing target tree with
  | nil =>
    obtain rfl : tree = .folder entries := Option.some.inj hfolder
    obtain ⟨entries', hput, hsources⟩ := sourcesIn_put h
    exact ⟨entries', congrArg some hput, hsources⟩
  | cons first others ih =>
    cases tree with
    | file content => cases hfolder
    | folder siblings =>
      obtain ⟨found, hfind, hothers⟩ := Option.bind_eq_some_iff.1 hfolder
      cases target with
      | nil => exact absurd rfl h.ne_nil
      | cons name rest =>
        by_cases hname : name = first
        · subst hname
          simpa [put, get?, hfind] using ih (h.inside hfind) hothers
        · refine ⟨entries, ?_, fun _ _ => rfl⟩
          simpa [put, get?, Bag.find?_put_of_ne _ _ hname] using hfolder

end Entry

section

variable {before after : Disk} {place : List String} {entries : List (String × Entry)}

theorem Disk.Edit.sources (h : Edit IsQuietPlace before after)
    (hfolder : before.tree.get? place = some (.folder entries)) :
    ∃ entries', after.tree.get? place = some (.folder entries') ∧
      ∀ excluded folder, sourcesIn excluded folder (Entry.listings entries')
        = sourcesIn excluded folder (Entry.listings entries) := by
  cases h with
  | folder h => exact Entry.sources_put (.folder h) hfolder
  | file hplace h => exact Entry.sources_put (.file hplace h) hfolder

theorem Disk.Edits.sources (h : Edits IsQuietPlace before after)
    (hfolder : before.tree.get? place = some (.folder entries)) :
    ∃ entries', after.tree.get? place = some (.folder entries') ∧
      ∀ excluded folder, sourcesIn excluded folder (Entry.listings entries')
        = sourcesIn excluded folder (Entry.listings entries) := by
  induction h with
  | refl => exact ⟨entries, hfolder, fun _ _ => rfl⟩
  | tail _ hedit ih =>
    obtain ⟨middle, hmiddle, hsources⟩ := ih
    obtain ⟨entries', hfolder', hsources'⟩ := hedit.sources hmiddle
    exact ⟨entries', hfolder', fun excluded folder =>
      (hsources' excluded folder).trans (hsources excluded folder)⟩

theorem discover_eq_ok {disk : Disk} {root : Path} {excluded : List String} {files : List Path} :
    discover disk root excluded = .ok files ↔ ∃ place entries,
      disk.locate root = .ok (place, .folder entries) ∧
        files = sources excluded root (Entry.listings entries) := by
  rw [discover, Disk.entries]
  constructor
  · intro h
    split at h
    · next entries hentries =>
      split at hentries
      · next place found hlocate =>
        obtain rfl := Except.ok.inj hentries
        exact ⟨place, found, hlocate, (Except.ok.inj h).symm⟩
      · cases hentries
      · cases hentries
    · cases h
  · rintro ⟨place, entries, hlocate, rfl⟩
    rw [hlocate]

/-- A search finds after quiet edits what it found before them. -/
theorem discover_of_edits {root : Path} {excluded : List String} {files : List Path}
    (h : Edits IsQuietPlace before after) (hfiles : discover before root excluded = .ok files) :
    discover after root excluded = .ok files := by
  obtain ⟨place, entries, hlocate, rfl⟩ := discover_eq_ok.1 hfiles
  obtain ⟨htext, hfollow, hget⟩ := locate_eq_folder.1 hlocate
  obtain ⟨entries', hget', hsources⟩ := h.sources hget
  refine discover_eq_ok.2 ⟨place, entries', locate_eq_folder.2 ⟨htext, ?_, hget'⟩, ?_⟩
  · rw [h.keeps.here]
    exact h.keeps.follow hfollow
  · rw [sources, sources, hsources]

end

/-! ## What is found -/

mutual

/-- The entries of every folder have different names, and each of them is one. -/
def Entry.WellFormed : Entry → Prop
  | .file _ => True
  | .folder entries => Bag.Distinct entries ∧ Entry.AllWellFormed entries

def Entry.AllWellFormed : List (String × Entry) → Prop
  | [] => True
  | (name, entry) :: rest => Path.IsName name ∧ entry.WellFormed ∧ Entry.AllWellFormed rest

end

/-- A path to a source that stands in a tree whose folder has this path. -/
structure IsSourceAt (tree : Entry) (folder path : Path) (text : String) (content : ByteArray) :
    Prop where
  path_eq : path = folder.join text
  plain : Path.IsPlain text
  file : tree.get? (Path.segments ⟨text⟩) = some (.file content)
  source : isSource path = true

namespace IsSourceAt

variable {tree : Entry} {folder path : Path} {name text : String} {content : ByteArray}
  {entries entries' : List (String × Entry)}

theorem mono (h : IsSourceAt (.folder entries) folder path text content)
    (hfind : ∀ name entry, Bag.find? name entries = some entry →
      Bag.find? name entries' = some entry) :
    IsSourceAt (.folder entries') folder path text content := by
  refine ⟨h.path_eq, h.plain, ?_, h.source⟩
  have hfile := h.file
  obtain ⟨first, rest, hsegments⟩ := List.exists_cons_of_ne_nil (Path.segments_ne_nil ⟨text⟩)
  rw [hsegments] at hfile ⊢
  obtain ⟨found, hfound, hrest⟩ := Option.bind_eq_some_iff.1 hfile
  exact Option.bind_eq_some_iff.2 ⟨found, hfind first found hfound, hrest⟩

/-- A source of a folder is one of the folder that this one stands in. -/
theorem outside (hname : Path.IsName name) (h : IsSourceAt tree (folder.join name) path text content) :
    IsSourceAt (.folder [(name, tree)]) folder path (name ++ "/" ++ text) content := by
  have hne : name ≠ "" := by
    rintro rfl
    exact absurd hname.2 (by decide)
  have hend : name.endsWith '/' = false := by
    rw [Bool.eq_false_iff, ne_eq, String.endsWith_char_iff_exists_append]
    rintro ⟨front, rfl⟩
    exact hname.1 (by simp)
  have hjoin : Path.join ⟨name⟩ text = ⟨name ++ "/" ++ text⟩ :=
    Path.join_of_not_endsWith hne hend h.plain
  refine ⟨?_, hname.2.append h.plain, ?_, h.source⟩
  · have hassoc : folder.join (Path.join ⟨name⟩ text).text = (folder.join name).join text :=
      Path.join_join folder hne h.plain
    rw [h.path_eq, ← hassoc, hjoin]
  · rw [Path.segments_append, hname.segments]
    simpa [Entry.get?, Bag.find?] using h.file

end IsSourceAt

section

variable {excluded : List String} {path : Path}

mutual

theorem exists_of_mem_sourcesOf : (entry : Entry) → entry.WellFormed →
    ∀ folder name, Path.IsName name → path ∈ sourcesOf excluded folder name entry.listing →
    ∃ text content, IsSourceAt (.folder [(name, entry)]) folder path text content
  | .file content, _, folder, name, hname, h => by
    rw [Entry.listing, sourcesOf] at h
    split at h
    · next hsource =>
      obtain rfl := List.mem_singleton.1 h
      refine ⟨name, content, rfl, hname.2, ?_, hsource⟩
      simp [hname.segments, Entry.get?, Bag.find?]
    · cases h
  | .folder entries, hentries, folder, name, hname, h => by
    rw [Entry.listing, sourcesOf] at h
    split at h
    · obtain ⟨text, content, hsource⟩ :=
        exists_of_mem_sourcesIn entries hentries.1 hentries.2 (folder.join name) h
      exact ⟨_, content, hsource.outside hname⟩
    · cases h

/-- Every path that a search gives leads to a file with the ending of sources. -/
theorem exists_of_mem_sourcesIn : (entries : List (String × Entry)) → Bag.Distinct entries →
    Entry.AllWellFormed entries →
    ∀ folder, path ∈ sourcesIn excluded folder (Entry.listings entries) →
    ∃ text content, IsSourceAt (.folder entries) folder path text content
  | [], _, _, _, h => by cases h
  | (name, entry) :: rest, hdistinct, hentries, folder, h => by
    obtain ⟨hname, hentry, hrest⟩ := hentries
    obtain ⟨hfresh, hdistinct⟩ := List.nodup_cons.1 hdistinct
    rw [Entry.listings, sourcesIn] at h
    rcases List.mem_append.1 h with h | h
    · obtain ⟨text, content, hsource⟩ := exists_of_mem_sourcesOf entry hentry folder name hname h
      refine ⟨text, content, hsource.mono fun other found hfound => ?_⟩
      by_cases hother : name = other <;> simp_all [Bag.find?]
    · obtain ⟨text, content, hsource⟩ := exists_of_mem_sourcesIn rest hdistinct hrest folder h
      refine ⟨text, content, hsource.mono fun other found hfound => ?_⟩
      have hother : name ≠ other := by
        rintro rfl
        exact hfresh (List.mem_map.2 ⟨_, Bag.mem_of_find? hfound, rfl⟩)
      simpa [Bag.find?, hother] using hfound

end

end

theorem Entry.AllWellFormed.find? {name : String} {entry : Entry} {entries : List (String × Entry)}
    (h : AllWellFormed entries) (hfind : Bag.find? name entries = some entry) : entry.WellFormed := by
  induction entries with
  | nil => cases hfind
  | cons pair rest ih =>
    obtain ⟨key, found⟩ := pair
    obtain ⟨-, hfound, hrest⟩ := h
    rw [Bag.find?] at hfind
    split at hfind
    · exact Option.some.inj hfind ▸ hfound
    · exact ih hrest hfind

theorem Entry.WellFormed.get? {place : List String} {tree entry : Entry} (h : tree.WellFormed)
    (hget : tree.get? place = some entry) : entry.WellFormed := by
  induction place generalizing tree with
  | nil => exact Option.some.inj hget ▸ h
  | cons name rest ih =>
    cases tree with
    | file content => cases hget
    | folder entries =>
      obtain ⟨found, hfound, hrest⟩ := Option.bind_eq_some_iff.1 hget
      exact ih (AllWellFormed.find? h.2 hfound) hrest

section

variable {disk before after : Disk} {options : Options} {output : CompileOutput}

/-- What a search finds are files below its root, under their paths from there. -/
theorem locate_of_mem_discover {root : Path} {excluded : List String} {files : List Path}
    (hdisk : disk.tree.WellFormed) (hfiles : discover disk root excluded = .ok files) :
    ∀ path ∈ files, ∃ text content, path = root.join text ∧ Path.IsPlain text ∧
      disk.locate path = .ok (disk.placeAt path, .file content) ∧ isSource path = true := by
  obtain ⟨place, entries, hlocate, rfl⟩ := discover_eq_ok.1 hfiles
  obtain ⟨-, hfollow, hget⟩ := locate_eq_folder.1 hlocate
  obtain ⟨hdistinct, hentries⟩ := hdisk.get? hget
  intro path hpath
  obtain ⟨text, content, hsource⟩ :=
    exists_of_mem_sourcesIn entries hdistinct hentries root (List.mem_mergeSort.1 hpath)
  refine ⟨text, content, hsource.path_eq, hsource.plain, ?_, hsource.source⟩
  rw [hsource.path_eq, placeAt_join disk root hsource.plain, placeAt, ← follow_eq_walk hfollow]
  exact locate_join hlocate hsource.plain hsource.file

theorem projectFiles_eq_discover (h : options.entries = none) :
    projectFiles disk options = discover disk options.projectRoot options.excludeDirs := by
  rw [projectFiles, h]

/-- Sources are looked for in a folder that is there. -/
theorem isFolder_of_compileProject (hentries : options.entries = none)
    (houtput : compileProject disk options = .ok output) :
    disk.isFolder options.projectRoot = true := by
  obtain ⟨files, hfiles, -⟩ := compileProject_eq_ok houtput
  rw [projectFiles_eq_discover hentries] at hfiles
  obtain ⟨place, entries, hlocate, -⟩ := discover_eq_ok.1 hfiles
  exact isFolder_iff.2 ⟨place, entries, hlocate⟩

/-- Quiet edits do not change what a project is compiled to. -/
theorem compileProject_of_edits (hdisk : before.tree.WellFormed) (hentries : options.entries = none)
    (h : Edits IsQuietPlace before after) (houtput : compileProject before options = .ok output) :
    compileProject after options = .ok output := by
  obtain ⟨files, hfiles, rfl⟩ := compileProject_eq_ok houtput
  rw [projectFiles_eq_discover hentries] at hfiles
  -- Sources that cannot be read as text are files too, so no error may change either.
  have hread : ∀ path ∈ files, after.readText path = before.readText path := by
    intro path hpath
    obtain ⟨text, content, -, -, hlocate, hsource⟩ := locate_of_mem_discover hdisk hfiles path hpath
    have hlocate' := h.keeps.locate_file hlocate (not_isQuietPlace before hsource)
    rw [readText, readText, hlocate, hlocate']
  rw [compileProject, projectFiles_eq_discover hentries, discover_of_edits h hfiles]
  exact congrArg Except.ok (compileFrom_congr _ _ hread _)

end

/-! ## Ids -/

section

variable {disk : Disk} {options : Options} {output : CompileOutput}

/-- The name of a source keeps the last letter of its ending. -/
theorem mem_relativeName {root : Path} {text : String} (hplain : Path.IsPlain text)
    (hsource : isSource (root.join text) = true) :
    'x' ∈ (relativeName root (root.join text)).toList := by
  have htext : 'x' ∈ text.toList := by
    obtain ⟨name, ending, hname, hsplit, hending⟩ := isSource_iff.1 hsource
    have hlast := List.getLast?_eq_some_getLast (Path.segments_ne_nil ⟨text⟩)
    obtain rfl := Option.some.inj ((Path.fileName?_join root hplain hlast).symm.trans hname)
    have hletter : 'x' ∈ ending.toList := by rcases hending with rfl | rfl <;> decide
    exact Path.mem_of_mem_split (List.getLast_mem _) (Path.mem_of_splitName hsplit hletter)
  rw [relativeName, Path.relativeTo?_join root hplain, Option.getD_some, String.toList_ofList]
  exact List.mem_map.2 ⟨'x', htext, rfl⟩

theorem mem_uniqueId? {candidate id : String} {taken : List String} {c : Char}
    (h : c ∈ candidate.toList) (hid : uniqueId? candidate taken = some id) : c ∈ id.toList := by
  obtain rfl | ⟨n, rfl⟩ := (uniqueId?_eq_some hid).2
  · exact h
  · rw [numbered, String.toList_append, String.toList_append]
    exact List.mem_append_left _ (List.mem_append_left _ h)

/-- The roots of sources that were found have this letter in their ids. -/
theorem mem_rootId (hdisk : disk.tree.WellFormed) (hentries : options.entries = none)
    (houtput : compileProject disk options = .ok output) :
    ∀ root ∈ output.roots, 'x' ∈ root.rootId.toList := by
  obtain ⟨files, hfiles, rfl⟩ := compileProject_eq_ok houtput
  rw [projectFiles_eq_discover hentries] at hfiles
  refine forall_mem_roots_compileFrom _ _ (fun path hpath taken root hroot => ?_)
    (List.forall_mem_nil _)
  obtain ⟨text, content, rfl, hplain, -, hsource⟩ := locate_of_mem_discover hdisk hfiles path hpath
  refine mem_uniqueId? ?_ (rootId_compileFile hroot)
  rw [rootIdOf, String.toList_ofList]
  exact List.mem_map.2 ⟨'x', mem_relativeName hplain hsource, rfl⟩

end

end Widgetry
