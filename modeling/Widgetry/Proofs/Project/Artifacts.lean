import Widgetry.Proofs.Generate.Paths
import Widgetry.Proofs.Project.Deeds
import Widgetry.Proofs.Root.RoundTrip

/-!
Artifacts that are read back. The list of the last run decides which files are read, so nothing that
earlier runs left behind is seen. Main statement: after any number of runs, reading the folder gives the
roots of the last one, in their order, and only the empty path, which can be written to, cannot be
read.
-/

namespace Widgetry

open Disk Work

/-! ## Writing as deeds -/

def rootDeeds (dir : Path) (roots : List Root) : List Deed :=
  roots.map fun root => .write (artifactPath dir root.rootId) root.toJson.pretty

/-- What is done to write artifacts. -/
def artifactDeeds (dir : Path) (roots : List Root) : List Deed :=
  .folders dir :: rootDeeds dir roots ++ [.write (dir.join indexName) (indexJson roots).pretty]

/-- The paths of artifacts. -/
def artifactPaths (dir : Path) (roots : List Root) : List Path :=
  (roots.map fun root => artifactPath dir root.rootId) ++ [dir.join indexName]

variable {dir : Path} {roots : List Root} {before after : Disk} {written : List Path}

theorem succeeds_writeRoots : Succeeds (writeRoots dir roots) before written after ↔
    Does (rootDeeds dir roots) before after ∧
      written = roots.map fun root => artifactPath dir root.rootId := by
  induction roots generalizing before after written with
  | nil =>
    rw [writeRoots, succeeds_pure]
    constructor
    · rintro ⟨rfl, rfl⟩
      exact ⟨.nil before, rfl⟩
    · rintro ⟨⟨⟩, rfl⟩
      exact ⟨rfl, rfl⟩
  | cons root rest ih =>
    simp only [writeRoots, succeeds_bind, ih, succeeds_pure]
    constructor
    · rintro ⟨_, middle, hwrite, _, last, ⟨hrest, rfl⟩, rfl, rfl⟩
      exact ⟨.cons hwrite hrest, rfl⟩
    · rintro ⟨_ | ⟨hwrite, hrest⟩, rfl⟩
      exact ⟨(), _, hwrite, _, after, ⟨hrest, rfl⟩, rfl, rfl⟩

theorem succeeds_writeArtifacts : Succeeds (writeArtifacts roots dir) before written after ↔
    Does (artifactDeeds dir roots) before after ∧ written = artifactPaths dir roots := by
  simp only [writeArtifacts, succeeds_bind, succeeds_writeRoots, succeeds_pure]
  constructor
  · rintro ⟨_, made, hmade, _, wrote, ⟨hroots, rfl⟩, _, last, hindex, rfl, rfl⟩
    exact ⟨.cons hmade (hroots.append (.cons hindex (.nil last))), rfl⟩
  · rintro ⟨_ | ⟨hmade, hrest⟩, rfl⟩
    obtain ⟨wrote, hroots, _ | ⟨hindex, ⟨⟩⟩⟩ := does_append hrest
    exact ⟨(), _, hmade, _, wrote, ⟨hroots, rfl⟩, (), after, hindex, rfl, rfl⟩

/-! ## The list of roots -/

theorem Json.itemsDepth_strings (texts : List String) : itemsDepth (texts.map .string) = 0 := by
  induction texts with
  | nil => rfl
  | cons text rest ih => simp [itemsDepth, depth, ih]

theorem Json.printableItems_strings (texts : List String) :
    PrintableItems (texts.map .string) := by
  induction texts with
  | nil => trivial
  | cons text rest ih => exact ⟨trivial, ih⟩

theorem Json.written_strings (texts : List String) :
    writtenItems (texts.map .string) = texts.map .string := by
  induction texts with
  | nil => rfl
  | cons text rest ih => simp only [List.map_cons, writtenItems, ih, written]

/-- A list of roots is read back with its ids in their order. -/
theorem read?_index (hcount : roots.length < 2 ^ 64) :
    ArtifactIndex.read? (indexJson roots).pretty
      = some ⟨roots.length, roots.map Root.rootId⟩ := by
  have hjson : indexJson roots = .object [("count", .number (.integer roots.length)),
      ("roots", .array ((roots.map Root.rootId).map .string))] := by
    simp [indexJson, Json.ofNat]
  have hread : Json.read? (indexJson roots).pretty = some (indexJson roots) := by
    have hprintable : (indexJson roots).Printable := by
      rw [hjson]
      exact ⟨⟨by omega, by exact_mod_cast hcount⟩, Json.printableItems_strings _, trivial⟩
    have hdepth : (indexJson roots).depth = 2 := by
      rw [hjson]
      simp only [Json.depth, Json.membersDepth, Json.itemsDepth_strings]
      rfl
    have hwritten : (indexJson roots).written = indexJson roots := by
      rw [hjson]
      simp only [Json.written, Json.writtenMembers, Json.written_strings]
    rw [Json.read?_printed hprintable (.inr rfl), hdepth, hwritten]
    rfl
  have hroots : Decoder.list Decoder.string .inPlace
      (.array ((roots.map Root.rootId).map .string)) = .ok (roots.map Root.rootId) := by
    have hstring : ∀ text ∈ roots.map Root.rootId,
        Decoder.string .inPlace (.string text) = .ok (id text) := fun _ _ => rfl
    have hitems := Decoder.itemsFrom_map hstring 0
    rwa [List.map_id] at hitems
  have hcounted : countDecoder .inPlace (.number (.integer roots.length)) = .ok roots.length := by
    simp [countDecoder]
  have hdecode : ArtifactIndex.decode .inPlace (indexJson roots)
      = .ok ⟨roots.length, roots.map Root.rootId⟩ := by
    rw [hjson]
    simp only [ArtifactIndex.decode, Decoder.record, Decoder.fromMembers, Decoder.fieldsFrom,
      Decoder.required, hroots, hcounted, List.find?, decide_true, String.reduceEq, decide_false]
    rfl
  rw [ArtifactIndex.read?, hread, Option.bind_some, hdecode]
  rfl

/-! ## Reading -/

theorem placeAt_artifactPath (disk : Disk) (dir : Path) {id : String} (h : '/' ∉ id.toList) :
    disk.placeAt (artifactPath dir id) = disk.placeAt dir ++ [id ++ ".json"] := by
  have hending : '/' ∉ ".json".toList := by decide
  rw [artifactPath, placeAt_join disk dir (isPlain_of_ending h hending (by decide)),
    segments_of_ending h hending]

theorem placeAt_artifactPath_inj {disk : Disk} {dir : Path} {a b : String} (ha : '/' ∉ a.toList)
    (hb : '/' ∉ b.toList)
    (h : disk.placeAt (artifactPath dir a) = disk.placeAt (artifactPath dir b)) : a = b := by
  rw [placeAt_artifactPath disk dir ha, placeAt_artifactPath disk dir hb] at h
  simpa using h

/-- The list of roots stands beside them. -/
theorem join_indexName (dir : Path) : dir.join indexName = artifactPath dir "index" := rfl

section

variable (h : Does (artifactDeeds dir roots) before after)
include h

theorem readText_index : after.readText (dir.join indexName) = .ok (indexJson roots).pretty :=
  Does.readText h List.not_mem_nil

/-- A root is read from its file, and no other root and no list has replaced it. -/
theorem readText_artifact (hdistinct : (roots.map Root.rootId).Nodup)
    (hids : ∀ root ∈ roots, '/' ∉ root.rootId.toList ∧ root.rootId ≠ "index") {root : Root}
    (hroot : root ∈ roots) :
    after.readText (artifactPath dir root.rootId) = .ok root.toJson.pretty := by
  obtain ⟨front, rest, rfl⟩ := List.append_of_mem hroot
  have hsplit : artifactDeeds dir (front ++ root :: rest)
      = (.folders dir :: rootDeeds dir front)
        ++ .write (artifactPath dir root.rootId) root.toJson.pretty :: (rootDeeds dir rest
          ++ [.write (dir.join indexName) (indexJson (front ++ root :: rest)).pretty]) := by
    simp [artifactDeeds, rootDeeds]
  rw [hsplit] at h
  refine Does.readText h fun hplace => ?_
  obtain ⟨hroot, hindex⟩ := hids root hroot
  simp only [List.mem_map, Deed.files, List.mem_filterMap, List.mem_append, List.mem_singleton,
    rootDeeds] at hplace
  obtain ⟨_, ⟨_, ⟨other, hother, rfl⟩ | rfl, hfile⟩, hplace⟩ := hplace
  · obtain rfl := Option.some.inj hfile
    have hlater : other.rootId = root.rootId :=
      placeAt_artifactPath_inj (hids other (by simp [hother])).1 hroot hplace
    simp only [List.map_append, List.map_cons, List.nodup_append, List.nodup_cons] at hdistinct
    exact hdistinct.2.1.1 (hlater ▸ List.mem_map_of_mem hother)
  · obtain rfl := Option.some.inj hfile
    have hslash : '/' ∉ "index".toList := by decide
    dsimp only at hplace
    rw [join_indexName] at hplace
    exact hindex (placeAt_artifactPath_inj hslash hroot hplace).symm

/-- The folder of artifacts is there, unless its path is empty and names none. -/
theorem isFolder_artifacts : after.isFolder dir = true ↔ dir.text ≠ "" := by
  constructor
  · intro hfolder
    obtain ⟨place, entries, hlocate⟩ := isFolder_iff.1 hfolder
    exact (locate_eq_folder.1 hlocate).1
  · intro htext
    obtain ⟨place, content, hlocate, -⟩ := readText_eq_ok.1 (readText_index h)
    obtain ⟨-, hfollow, -, -⟩ := locate_eq_file.1 hlocate
    rw [Path.components_join dir (by decide)] at hfollow
    obtain ⟨parent, hparent, hlast⟩ := follow_append_eq_ok.1 hfollow
    obtain ⟨entries, _, hentries, -⟩ := follow_cons_eq_ok.1 (hlast :)
    exact isFolder_iff.2 ⟨parent, entries, locate_eq_folder.2 ⟨htext, hparent, hentries⟩⟩

/-- The files of the list are those that are read. -/
theorem artifactFiles_eq (hcount : roots.length < 2 ^ 64) :
    artifactFiles after dir = .ok (roots.map fun root => artifactPath dir root.rootId) := by
  have hread := readText_index h
  obtain ⟨place, content, hlocate, -⟩ := readText_eq_ok.1 hread
  have hfile : after.isFile (dir.join indexName) = true := by rw [isFile, hlocate]
  rw [artifactFiles, if_pos hfile, hread]
  simp [read?_index hcount]

theorem readArtifacts_eq (hdistinct : (roots.map Root.rootId).Nodup)
    (hids : ∀ root ∈ roots, '/' ∉ root.rootId.toList ∧ root.rootId ≠ "index")
    (hcount : roots.length < 2 ^ 64)
    (hparse : ∀ root ∈ roots, Root.parse root.toJson.pretty = .ok root) (hdir : dir.text ≠ "") :
    readArtifacts after dir = .ok roots := by
  have hroot : ∀ root ∈ roots, readRoot after (artifactPath dir root.rootId) = .ok root := by
    intro root hmem
    rw [readRoot, readText_artifact h hdistinct hids hmem]
    simp [hparse root hmem, Except.mapError]
  have hroots : (roots.map fun root => artifactPath dir root.rootId).mapM (readRoot after)
      = .ok roots := by
    clear h hdistinct hids hcount hparse hdir
    induction roots with
    | nil => rfl
    | cons root rest ih =>
      obtain ⟨hfirst, hrest⟩ := List.forall_mem_cons.1 hroot
      rw [List.map_cons, List.mapM_cons, hfirst, ih hrest]
      rfl
  rw [readArtifacts, (isFolder_artifacts h).2 hdir, artifactFiles_eq h hcount]
  exact hroots

end

/-! ## Runs -/

/-- Runs that write their roots to one folder, one after the other. -/
inductive WritesRuns (dir : Path) : List (List Root) → Disk → Disk → Prop
  | nil (disk : Disk) : WritesRuns dir [] disk disk
  | cons {roots : List Root} {rest : List (List Root)} {written : List Path}
      {before middle after : Disk} (h : Succeeds (writeArtifacts roots dir) before written middle)
      (hrest : WritesRuns dir rest middle after) : WritesRuns dir (roots :: rest) before after

theorem WritesRuns.last {earlier : List (List Root)}
    (h : WritesRuns dir (earlier ++ [roots]) before after) :
    ∃ middle, Does (artifactDeeds dir roots) middle after := by
  induction earlier generalizing before with
  | nil =>
    obtain _ | ⟨hlast, ⟨⟩⟩ := h
    exact ⟨before, (succeeds_writeArtifacts.1 hlast).1⟩
  | cons first rest ih =>
    obtain _ | ⟨-, hrest⟩ := h
    exact ih hrest

/-- After runs that write to one folder, the folder shows the roots of the last one in their order,
whatever was on the disk and whatever the earlier runs left there. The empty path is an exception: the
files are written beside the working folder's own, but the path names no folder to read. A count has
64 bits. -/
theorem readArtifacts_last {earlier : List (List Root)} {last : List Root}
    (h : WritesRuns dir (earlier ++ [last]) before after) (hdistinct : (last.map Root.rootId).Nodup)
    (hids : ∀ root ∈ last, '/' ∉ root.rootId.toList ∧ root.rootId ≠ "index")
    (hparse : ∀ root ∈ last, Root.parse root.toJson.pretty = .ok root)
    (hcount : last.length < 2 ^ 64) :
    (dir.text ≠ "" → readArtifacts after dir = .ok last) ∧
      (dir.text = "" → readArtifacts after dir = .error (.folderNotFound dir)) := by
  obtain ⟨middle, hlast⟩ := h.last
  refine ⟨readArtifacts_eq hlast hdistinct hids hcount hparse, fun hempty => ?_⟩
  have hfolder : after.isFolder dir = false := by
    rw [← Bool.not_eq_true, isFolder_artifacts hlast]
    exact not_not.2 hempty
  rw [readArtifacts, hfolder]
  rfl

/-- A root that holds a text. -/
def noteRoot (id text : String) : Root := .ofTree id (.text {} (.string text))

theorem parse_noteRoot {id : String} (text : String) (hid : Text.isEmptyOrBlank id = false) :
    Root.parse (noteRoot id text).toJson.pretty = .ok (noteRoot id text) := by
  have hproper : (noteRoot id text).Proper := by
    refine ⟨?_, List.forall_mem_nil _, by rintro _ ⟨⟩, by rintro _ ⟨⟩⟩
    refine List.forall_mem_singleton.2 ⟨⟨?_, ?_, ?_⟩, List.forall_mem_nil _⟩ <;> rintro _ ⟨⟩
  have hvalid : (noteRoot id text).Valid := by
    refine Root.issues_eq_nil.1 ?_
    have hblank : Text.isEmptyOrBlank (noteRoot id text).rootId = false := hid
    simp only [Root.issues, hblank]
    rfl
  rw [Root.parse_printed hproper hvalid (List.forall_mem_nil _) (.inr rfl)]
  rfl

/-- Two runs, each of which succeeds on the disk that it finds. -/
theorem writesRuns_pair {first second : List Root}
    (hfirst : ((writeArtifacts first dir).outcome before).1.isOk = true)
    (hsecond : ((writeArtifacts second dir).outcome
      ((writeArtifacts first dir).outcome before).2).1.isOk = true) :
    WritesRuns dir [first, second] before
      ((writeArtifacts second dir).outcome ((writeArtifacts first dir).outcome before).2).2 := by
  obtain ⟨_, hfirst⟩ := exists_succeeds hfirst
  obtain ⟨_, hsecond⟩ := exists_succeeds hsecond
  exact .cons hfirst (.cons hsecond (.nil _))

/-- The second run drops one root and leaves its file behind, adds another, and changes the third. On
the empty path the same runs leave roots that are not read. -/
theorem readArtifacts_last_notes :
    (∃ after, WritesRuns ⟨"out"⟩
        [[noteRoot "a" "1", noteRoot "b" "2"], [noteRoot "c" "3", noteRoot "b" "4"]] {} after ∧
      after.isFile ⟨"out/a.json"⟩ = true ∧
      readArtifacts after ⟨"out"⟩ = .ok [noteRoot "c" "3", noteRoot "b" "4"]) ∧
    ∃ after, WritesRuns ⟨""⟩
        [[noteRoot "a" "1", noteRoot "b" "2"], [noteRoot "c" "3", noteRoot "b" "4"]] {} after ∧
      after.isFile ⟨"c.json"⟩ = true ∧
      readArtifacts after ⟨""⟩ = .error (.folderNotFound ⟨""⟩) := by
  have hparse : ∀ root ∈ [noteRoot "c" "3", noteRoot "b" "4"],
      Root.parse root.toJson.pretty = .ok root :=
    List.forall_mem_cons.2 ⟨parse_noteRoot _ (by decide),
      List.forall_mem_singleton.2 (parse_noteRoot _ (by decide))⟩
  have hout : WritesRuns ⟨"out"⟩ ([[noteRoot "a" "1", noteRoot "b" "2"]]
      ++ [[noteRoot "c" "3", noteRoot "b" "4"]]) {} _ :=
    writesRuns_pair (by decide +kernel) (by decide +kernel)
  have hhere : WritesRuns ⟨""⟩ ([[noteRoot "a" "1", noteRoot "b" "2"]]
      ++ [[noteRoot "c" "3", noteRoot "b" "4"]]) {} _ :=
    writesRuns_pair (by decide +kernel) (by decide +kernel)
  refine ⟨⟨_, hout, by decide +kernel, ?_⟩, ⟨_, hhere, by decide +kernel, ?_⟩⟩
  · exact (readArtifacts_last hout (by decide) (by decide) hparse (by decide)).1 (by decide)
  · exact (readArtifacts_last hhere (by decide) (by decide) hparse (by decide)).2 rfl

end Widgetry
