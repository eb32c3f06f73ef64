import Mathlib.Data.List.Lex
import Mathlib.Data.Prod.Lex
import Mathlib.Data.String.Basic
import Widgetry.Proofs.Project.Sources

/-!
What a search for sources finds. A walk passes over the folders that are shut and follows no links;
below the root it lists, once each, the files with the ending of sources that no shut folder hides.
Main statement: a search gives exactly these files, strictly increasing in the order of paths.
-/

namespace Widgetry

/-! ## The order of paths -/

namespace Path

/-- What components are compared by: their kinds, and names by their texts. -/
def Component.key : Component → ℕ ×ₗ String
  | .name text => toLex (rank (.name text), text)
  | component => toLex (component.rank, "")

theorem Component.key_injective : Function.Injective Component.key := by
  intro a b h
  cases a <;> cases b <;> simp_all [key, rank]

theorem Component.before_iff {a b : Component} : a.before b = true ↔ a.key < b.key := by
  cases a <;> cases b <;> simp [before, key, rank, Prod.Lex.toLex_lt_toLex]

theorem componentsBefore_iff (as bs : List Component) :
    componentsBefore as bs = true ↔ as.map Component.key < bs.map Component.key := by
  induction as generalizing bs with
  | nil => cases bs <;> simp [componentsBefore]
  | cons a as ih =>
    cases bs with
    | nil => simp [componentsBefore]
    | cons b bs =>
      rw [componentsBefore, List.map_cons, List.map_cons, List.cons_lt_cons_iff,
        Component.key_injective.eq_iff]
      split
      · next heq => simp [heq, ih]
      · next hne => simp [hne, Component.before_iff]

def key (path : Path) : List (ℕ ×ₗ String) := path.components.map Component.key

theorem before_iff {a b : Path} : a.before b = true ↔ a.key < b.key := componentsBefore_iff _ _

theorem not_before_iff {a b : Path} : (!b.before a) = true ↔ a.key ≤ b.key := by
  rw [Bool.not_eq_true', Bool.eq_false_iff, ne_eq, before_iff, not_lt]

/-- Paths that lead to different places are strictly increasing once they are sorted. -/
theorem pairwise_before_mergeSort {paths : List Path} (h : (paths.map components).Nodup) :
    (paths.mergeSort fun a b => !b.before a).Pairwise fun a b => a.before b = true := by
  have hsorted : (paths.mergeSort fun a b => !b.before a).Pairwise
      fun a b => (!b.before a) = true := by
    refine List.pairwise_mergeSort (fun a b c => ?_) (fun a b => ?_) paths
    · simp only [not_before_iff]
      exact le_trans
    · rw [Bool.or_eq_true, not_before_iff, not_before_iff]
      exact le_total _ _
  have hdistinct : (paths.mergeSort fun a b => !b.before a).Pairwise
      fun a b => a.components ≠ b.components :=
    List.pairwise_map.1 (((List.mergeSort_perm paths _).map components).nodup_iff.2 h)
  refine hsorted.imp₂ (fun a b hle hne => ?_) hdistinct
  rw [before_iff]
  refine lt_of_le_of_ne (not_before_iff.1 hle) fun hkey => hne ?_
  exact (List.map_injective_iff.2 Component.key_injective) hkey

/-- The path of a place below a folder. -/
def below (folder : Path) (place : List String) : Path := place.foldl join folder

theorem components_below (folder : Path) {place : List String} (h : ∀ name ∈ place, IsName name) :
    (folder.below place).components = folder.components ++ place.map .name := by
  induction place generalizing folder with
  | nil => simp [below]
  | cons name rest ih =>
    obtain ⟨hname, hrest⟩ := List.forall_mem_cons.1 h
    have hjoin := components_join folder hname.2
    rw [hname.segments] at hjoin
    rw [below, List.foldl_cons, ← below, ih (folder.join name) hrest, hjoin]
    simp

/-- What is split off a name is its ending, with something in front of it. -/
theorem eq_of_splitName {name ending : String} (h : (splitName name).2 = some ending) :
    ∃ stem ≠ "", name = stem ++ "." ++ ending := by
  have hpoint : '.' ∈ name.toList := by
    by_contra hnone
    simp [splitName, split, splitAt_of_not_mem hnone] at h
  obtain ⟨back, front, hreverse, hback⟩ := List.eq_append_cons_of_mem (List.mem_reverse.2 hpoint)
  have hname : name = String.ofList front.reverse ++ "." ++ String.ofList back.reverse := by
    rw [← String.toList_inj, ← List.reverse_reverse name.toList, hreverse]
    simp
  rw [hname, splitName_append _ (by simpa using hback)] at h
  split at h
  · cases h
  · next hstem =>
    obtain rfl := Option.some.inj h
    exact ⟨_, by simpa using hstem, hname⟩

end Path

/-! ## Visible sources -/

/-- A folder that is hidden or named among those that are not searched. -/
def IsShut (excluded : List String) (name : String) : Prop :=
  name.startsWith "." = true ∨ name ∈ excludedByDefault ∨ name ∈ excluded

theorem isSearched_iff {excluded : List String} {name : String} :
    isSearched excluded name = true ↔ ¬ IsShut excluded name := by
  simp [isSearched, IsShut, and_comm]

/-- A name with the ending of sources. -/
def IsSourceName (name : String) : Prop :=
  ∃ stem ≠ "", name = stem ++ ".tsx" ∨ name = stem ++ ".jsx"

theorem isSource_join (folder : Path) {name : String} (h : Path.IsName name) :
    isSource (folder.join name) = true ↔ IsSourceName name := by
  have hname : (folder.join name).fileName? = some name :=
    Path.fileName?_join folder h.2 (by rw [h.segments, List.getLast?_singleton])
  rw [isSource_iff]
  constructor
  · rintro ⟨found, ending, hfound, hsplit, hending⟩
    obtain rfl := Option.some.inj (hname.symm.trans hfound)
    obtain ⟨stem, hstem, rfl⟩ := Path.eq_of_splitName hsplit
    refine ⟨stem, hstem, ?_⟩
    rcases hending with rfl | rfl
    · exact .inl (String.append_assoc ..)
    · exact .inr (String.append_assoc ..)
  · rintro ⟨stem, hstem, hending⟩
    have hsplit : ∀ ending : String, '.' ∉ ending.toList → name = stem ++ ("." ++ ending) →
        (Path.splitName name).2 = some ending := by
      rintro ending hpoint rfl
      rw [← String.append_assoc, Path.splitName_append stem hpoint, if_neg (by simpa using hstem)]
    rcases hending with htsx | hjsx
    · exact ⟨name, "tsx", hname, hsplit "tsx" (by decide) htsx, .inl rfl⟩
    · exact ⟨name, "jsx", hname, hsplit "jsx" (by decide) hjsx, .inr rfl⟩

namespace Listing

/-- What a walk would meet at a place inside an entry. -/
def get? : List String → Listing → Option Listing
  | [], entry => some entry
  | name :: rest, .folder entries => (Bag.find? name entries).bind (get? rest)
  | _ :: _, _ => none

mutual

/-- The entries of every folder have different names, and each of them is one. -/
def WellFormed : Listing → Prop
  | .file | .other => True
  | .folder entries => Bag.Distinct entries ∧ AllWellFormed entries

def AllWellFormed : List (String × Listing) → Prop
  | [] => True
  | (name, entry) :: rest => Path.IsName name ∧ entry.WellFormed ∧ AllWellFormed rest

end

theorem AllWellFormed.of_mem {entries : List (String × Listing)} (h : AllWellFormed entries)
    {name : String} {entry : Listing} (hmem : (name, entry) ∈ entries) :
    Path.IsName name ∧ entry.WellFormed := by
  induction entries with
  | nil => cases hmem
  | cons pair rest ih =>
    obtain ⟨key, found⟩ := pair
    obtain ⟨hkey, hfound, hrest⟩ := h
    rcases List.mem_cons.1 hmem with heq | hlater
    · obtain ⟨rfl, rfl⟩ := Prod.mk.inj heq
      exact ⟨hkey, hfound⟩
    · exact ih hrest hlater

/-- Every step of a place that is there is a name. -/
theorem WellFormed.isName_of_get? {tree found : Listing} {place : List String} (h : tree.WellFormed)
    (hget : tree.get? place = some found) : ∀ name ∈ place, Path.IsName name := by
  induction place generalizing tree with
  | nil => exact List.forall_mem_nil _
  | cons first rest ih =>
    cases tree with
    | file => cases hget
    | other => cases hget
    | folder entries =>
      obtain ⟨inner, hinner, hrest⟩ := Option.bind_eq_some_iff.1 hget
      obtain ⟨hfirst, hwell⟩ := h.2.of_mem (Bag.mem_of_find? hinner)
      exact List.forall_mem_cons.2 ⟨hfirst, ih hwell hrest⟩

end Listing

/-- A place below a folder where a source can be seen: there is a file with the ending of sources, and
no folder on the way is shut. -/
structure IsVisibleSource (excluded : List String) (tree : Listing) (place : List String) :
    Prop where
  file : tree.get? place = some .file
  folders : ∀ name ∈ place.dropLast, ¬ IsShut excluded name
  source : ∃ name, place.getLast? = some name ∧ IsSourceName name

section

variable {excluded : List String} {entries : List (String × Listing)} {name : String}
  {entry : Listing} {place rest : List String} {path : Path}

/-- What an entry adds to the sources of its folder: itself, or what can be seen below it. -/
def Adds (excluded : List String) (name : String) (entry : Listing) (rest : List String) : Prop :=
  (entry = .file ∧ IsSourceName name ∧ rest = []) ∨
    (¬ IsShut excluded name ∧ IsVisibleSource excluded entry rest)

theorem not_isVisibleSource_nil : ¬ IsVisibleSource excluded entry [] := by
  intro h
  obtain ⟨last, hlast, -⟩ := h.source
  cases hlast

theorem isVisibleSource_cons (hfind : Bag.find? name entries = some entry) :
    IsVisibleSource excluded (.folder entries) (name :: rest) ↔ Adds excluded name entry rest := by
  have hget : Listing.get? (name :: rest) (.folder entries) = entry.get? rest := by
    simp [Listing.get?, hfind]
  cases rest with
  | nil =>
    constructor
    · intro h
      obtain ⟨last, hlast, hsource⟩ := h.source
      obtain rfl := Option.some.inj hlast
      exact .inl ⟨Option.some.inj (hget.symm.trans h.file), hsource, rfl⟩
    · rintro (⟨rfl, hsource, -⟩ | ⟨-, hvisible⟩)
      · exact ⟨hget, List.forall_mem_nil _, name, rfl, hsource⟩
      · exact absurd hvisible not_isVisibleSource_nil
  | cons next later =>
    constructor
    · intro h
      obtain ⟨hopen, hfolders⟩ := List.forall_mem_cons.1 h.folders
      exact .inr ⟨hopen, hget.symm.trans h.file, hfolders, h.source⟩
    · rintro (⟨-, -, hnil⟩ | ⟨hopen, hvisible⟩)
      · cases hnil
      · exact ⟨hget.trans hvisible.file, List.forall_mem_cons.2 ⟨hopen, hvisible.folders⟩,
          hvisible.source⟩

theorem isVisibleSource_folder (distinct : Bag.Distinct entries) :
    IsVisibleSource excluded (.folder entries) place ↔
      ∃ name entry rest, (name, entry) ∈ entries ∧ place = name :: rest ∧
        Adds excluded name entry rest := by
  constructor
  · intro h
    cases place with
    | nil => exact absurd h not_isVisibleSource_nil
    | cons name rest =>
      obtain ⟨entry, hfind, -⟩ := Option.bind_eq_some_iff.1 h.file
      exact ⟨name, entry, rest, Bag.mem_of_find? hfind, rfl, (isVisibleSource_cons hfind).1 h⟩
  · rintro ⟨name, entry, rest, hmem, rfl, hadds⟩
    exact (isVisibleSource_cons (Bag.find?_of_mem distinct hmem)).2 hadds

/-! ## The walk -/

theorem mem_sourcesIn_iff_exists {folder : Path} :
    path ∈ sourcesIn excluded folder entries ↔
      ∃ name entry, (name, entry) ∈ entries ∧ path ∈ sourcesOf excluded folder name entry := by
  induction entries with
  | nil => simp [sourcesIn]
  | cons pair others ih =>
    obtain ⟨key, found⟩ := pair
    rw [sourcesIn, List.mem_append, ih]
    constructor
    · rintro (hfirst | ⟨name, entry, hmem, hpath⟩)
      · exact ⟨key, found, List.mem_cons_self, hfirst⟩
      · exact ⟨name, entry, List.mem_cons_of_mem _ hmem, hpath⟩
    · rintro ⟨name, entry, hmem, hpath⟩
      rcases List.mem_cons.1 hmem with heq | hlater
      · obtain ⟨rfl, rfl⟩ := Prod.mk.inj heq
        exact .inl hpath
      · exact .inr ⟨name, entry, hlater, hpath⟩

/-- What every entry adds, taken together, is what can be seen in the folder. -/
theorem mem_sourcesIn_of_entries {folder : Path} (distinct : Bag.Distinct entries)
    (h : ∀ name entry, (name, entry) ∈ entries →
      (path ∈ sourcesOf excluded folder name entry ↔
        ∃ rest, Adds excluded name entry rest ∧ path = folder.below (name :: rest))) :
    path ∈ sourcesIn excluded folder entries ↔
      ∃ place, IsVisibleSource excluded (.folder entries) place ∧ path = folder.below place := by
  rw [mem_sourcesIn_iff_exists]
  constructor
  · rintro ⟨name, entry, hmem, hpath⟩
    obtain ⟨rest, hadds, rfl⟩ := (h name entry hmem).1 hpath
    exact ⟨name :: rest, (isVisibleSource_folder distinct).2 ⟨name, entry, rest, hmem, rfl, hadds⟩, rfl⟩
  · rintro ⟨place, hvisible, rfl⟩
    obtain ⟨name, entry, rest, hmem, rfl, hadds⟩ := (isVisibleSource_folder distinct).1 hvisible
    exact ⟨name, entry, hmem, (h name entry hmem).2 ⟨rest, hadds, rfl⟩⟩

mutual

theorem mem_sourcesOf : (entry : Listing) → entry.WellFormed → ∀ {name}, Path.IsName name →
    ∀ folder, path ∈ sourcesOf excluded folder name entry ↔
      ∃ rest, Adds excluded name entry rest ∧ path = folder.below (name :: rest)
  | .file, _, name, hname, folder => by
    rw [sourcesOf]
    constructor
    · intro h
      split at h
      · next hsource =>
        exact ⟨[], .inl ⟨rfl, (isSource_join folder hname).1 hsource, rfl⟩, List.mem_singleton.1 h⟩
      · cases h
    · rintro ⟨rest, ⟨-, hsource, rfl⟩ | ⟨-, hvisible⟩, rfl⟩
      · rw [if_pos ((isSource_join folder hname).2 hsource)]
        exact List.mem_singleton_self _
      · cases rest with
        | nil => exact absurd hvisible not_isVisibleSource_nil
        | cons next later => cases hvisible.file
  | .other, _, name, _, folder => by
    rw [sourcesOf]
    constructor
    · rintro ⟨⟩
    · rintro ⟨rest, ⟨hfile, -⟩ | ⟨-, hvisible⟩, -⟩
      · cases hfile
      · cases rest with
        | nil => cases hvisible.file
        | cons next later => cases hvisible.file
  | .folder entries, h, name, _, folder => by
    have hinside := mem_sourcesIn_of_entries h.1 fun inner entry hmem =>
      mem_sourcesOf_all entries h.2 inner entry hmem (folder.join name)
    rw [sourcesOf]
    constructor
    · intro hpath
      split at hpath
      · next hopen =>
        obtain ⟨place, hvisible, hplace⟩ := hinside.1 hpath
        exact ⟨place, .inr ⟨isSearched_iff.1 hopen, hvisible⟩, hplace⟩
      · cases hpath
    · rintro ⟨rest, ⟨hfile, -⟩ | ⟨hopen, hvisible⟩, hpath⟩
      · cases hfile
      · rw [if_pos (isSearched_iff.2 hopen)]
        exact hinside.2 ⟨rest, hvisible, hpath⟩

theorem mem_sourcesOf_all : (entries : List (String × Listing)) → Listing.AllWellFormed entries →
    ∀ name entry, (name, entry) ∈ entries → ∀ folder, path ∈ sourcesOf excluded folder name entry ↔
      ∃ rest, Adds excluded name entry rest ∧ path = folder.below (name :: rest)
  | [], _, _, _, hmem, _ => by cases hmem
  | (key, found) :: others, h, name, entry, hmem, folder => by
    obtain ⟨hkey, hfound, hothers⟩ := h
    rcases List.mem_cons.1 hmem with heq | hlater
    · obtain ⟨rfl, rfl⟩ := Prod.mk.inj heq
      exact mem_sourcesOf entry hfound hkey folder
    · exact mem_sourcesOf_all others hothers name entry hlater folder

end

/-- The walk finds what can be seen, and nothing else. -/
theorem mem_sourcesIn (h : (Listing.folder entries).WellFormed) (folder : Path) :
    path ∈ sourcesIn excluded folder entries ↔
      ∃ place, IsVisibleSource excluded (.folder entries) place ∧ path = folder.below place :=
  mem_sourcesIn_of_entries h.1 fun name entry hmem =>
    mem_sourcesOf_all entries h.2 name entry hmem folder

theorem components_of_mem_sourcesOf {folder : Path} (hentry : entry.WellFormed)
    (hname : Path.IsName name) (h : path ∈ sourcesOf excluded folder name entry) :
    ∃ rest : List String, path.components = folder.components ++ .name name :: rest.map .name := by
  obtain ⟨rest, hadds, rfl⟩ := (mem_sourcesOf entry hentry hname folder).1 h
  refine ⟨rest, ?_⟩
  have hnames : ∀ step ∈ name :: rest, Path.IsName step := by
    refine List.forall_mem_cons.2 ⟨hname, ?_⟩
    rcases hadds with ⟨-, -, rfl⟩ | ⟨-, hvisible⟩
    · exact List.forall_mem_nil _
    · exact hentry.isName_of_get? hvisible.file
  rw [Path.components_below folder hnames, List.map_cons]

mutual

theorem nodup_sourcesOf : (entry : Listing) → entry.WellFormed → ∀ folder name,
    ((sourcesOf excluded folder name entry).map Path.components).Nodup
  | .file, _, folder, name => by
    rw [sourcesOf]
    split
    · exact List.nodup_singleton _
    · exact List.nodup_nil
  | .other, _, _, _ => List.nodup_nil
  | .folder entries, h, folder, name => by
    rw [sourcesOf]
    split
    · exact nodup_sourcesIn entries h.1 h.2 (folder.join name)
    · exact List.nodup_nil

/-- No two of the paths that a walk finds lead to the same place. -/
theorem nodup_sourcesIn : (entries : List (String × Listing)) → Bag.Distinct entries →
    Listing.AllWellFormed entries → ∀ folder,
    ((sourcesIn excluded folder entries).map Path.components).Nodup
  | [], _, _, _ => List.nodup_nil
  | (name, entry) :: others, hdistinct, h, folder => by
    obtain ⟨hname, hentry, hothers⟩ := h
    obtain ⟨hfresh, hdistinct⟩ := List.nodup_cons.1 hdistinct
    rw [sourcesIn, List.map_append]
    refine List.nodup_append.2 ⟨nodup_sourcesOf entry hentry folder name,
      nodup_sourcesIn others hdistinct hothers folder, ?_⟩
    -- The component behind those of the folder tells which entry a path comes from.
    rintro _ hfirst _ hlater rfl
    obtain ⟨path, hpath, rfl⟩ := List.mem_map.1 hfirst
    obtain ⟨other, hother, heq⟩ := List.mem_map.1 hlater
    obtain ⟨key, found, hmem, hfound⟩ := mem_sourcesIn_iff_exists.1 hother
    obtain ⟨hkey, hwell⟩ := hothers.of_mem hmem
    obtain ⟨rest, hrest⟩ := components_of_mem_sourcesOf hentry hname hpath
    obtain ⟨rest', hrest'⟩ := components_of_mem_sourcesOf hwell hkey hfound
    rw [hrest, hrest'] at heq
    obtain ⟨hsame, -⟩ := List.cons.inj (List.append_cancel_left heq)
    obtain rfl := Path.Component.name.inj hsame
    exact hfresh (List.mem_map.2 ⟨_, hmem, rfl⟩)

end

end

/-! ## Searches -/

/-- A search of a folder gives its visible sources, each once and in the order of their paths. -/
theorem discover_eq_visible_sources {entries : List (String × Listing)}
    (h : (Listing.folder entries).WellFormed) (root : Path) (excluded : List String) :
    (∀ disk found, Disk.entries disk root = .ok found → Entry.listings found = entries →
      discover disk root excluded = .ok (sources excluded root entries)) ∧
    (sources excluded root entries).Pairwise (fun a b => a.before b = true) ∧
    (sources excluded root entries).Nodup ∧
    ∀ path, path ∈ sources excluded root entries ↔
      ∃ place, IsVisibleSource excluded (.folder entries) place ∧ path = root.below place := by
  have hdistinct : ((sourcesIn excluded root entries).map Path.components).Nodup :=
    nodup_sourcesIn entries h.1 h.2 root
  refine ⟨?_, Path.pairwise_before_mergeSort hdistinct, ?_, fun path => ?_⟩
  · rintro disk found hfound rfl
    rw [discover, hfound]
  · exact (List.mergeSort_perm _ _).nodup_iff.2 (List.Nodup.of_map _ hdistinct)
  · rw [sources, List.mem_mergeSort, mem_sourcesIn h root]

/-- A folder with a link, a file whose name is that of a shut folder, and a hidden file. -/
def mixedFolder : List (String × Listing) :=
  [("src", .folder [("a.tsx", .other), (".b.jsx", .file)]), ("dist", .folder [("c.tsx", .file)]),
    ("lib", .file)]

theorem discover_eq_visible_sources_mixed :
    (Listing.folder mixedFolder).WellFormed ∧
      IsVisibleSource [] (.folder mixedFolder) ["src", ".b.jsx"] ∧
      Path.mk "p/src/.b.jsx" ∈ sources [] ⟨"p"⟩ mixedFolder := by
  have hwell : (Listing.folder mixedFolder).WellFormed := by
    simp only [mixedFolder, Listing.WellFormed, Listing.AllWellFormed]
    decide
  have hvisible : IsVisibleSource [] (.folder mixedFolder) ["src", ".b.jsx"] := by
    refine ⟨rfl, ?_, ".b.jsx", rfl, ".b", by decide, .inr rfl⟩
    simp [IsShut, excludedByDefault]
  exact ⟨hwell, hvisible,
    ((discover_eq_visible_sources hwell ⟨"p"⟩ []).2.2.2 _).2 ⟨_, hvisible, by decide +kernel⟩⟩

end Widgetry
