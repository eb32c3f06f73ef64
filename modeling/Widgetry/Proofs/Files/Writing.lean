import Mathlib.Logic.Relation
import Widgetry.Files.Disk
import Widgetry.Proofs.Files.Paths

/-!
What writing to a disk keeps. Whatever is done, it comes down to edits: new folders, and files that are
new or take the place of others. No edit takes an entry away or turns a file into a folder, so every
path that led somewhere still leads there. A file that is written can be read, and the files at all
other places keep their contents.
-/

namespace Widgetry

/-! ## Entries -/

namespace Entry

/-- An entry after some writing; only a file that may change has another content. -/
inductive Kept (mayChange : Prop) : Entry → Entry → Prop
  | folder (before after : List (String × Entry)) : Kept mayChange (.folder before) (.folder after)
  | same (content : ByteArray) : Kept mayChange (.file content) (.file content)
  | changed (before after : ByteArray) (h : mayChange) : Kept mayChange (.file before) (.file after)

variable {mayChange other : Prop} {entry before between after : Entry} {place : List String}

theorem Kept.refl (mayChange : Prop) (entry : Entry) : Kept mayChange entry entry := by
  cases entry with
  | file content => exact .same content
  | folder entries => exact .folder entries entries

theorem Kept.mono (h : Kept mayChange before after) (himp : mayChange → other) :
    Kept other before after := by
  cases h with
  | folder before after => exact .folder before after
  | same content => exact .same content
  | changed before after h => exact .changed before after (himp h)

theorem Kept.trans (h₁ : Kept mayChange before between) (h₂ : Kept mayChange between after) :
    Kept mayChange before after := by
  cases h₁ with
  | folder before between => cases h₂ with | folder _ after => exact .folder before after
  | same content => exact h₂
  | changed before between h =>
    cases h₂ with
    | same _ => exact .changed before between h
    | changed _ after _ => exact .changed before after h

theorem get?_append (front back : List String) (entry : Entry) :
    get? (front ++ back) entry = (get? front entry).bind (get? back) := by
  induction front generalizing entry with
  | nil => rfl
  | cons name rest ih =>
    cases entry with
    | file content => rfl
    | folder entries =>
      cases hfind : Bag.find? name entries with
      | none => simp [get?, hfind]
      | some found => simp [get?, hfind, ih]

theorem get?_concat {entries : List (String × Entry)} {name : String}
    (h : get? place entry = some (.folder entries)) :
    get? (place ++ [name]) entry = Bag.find? name entries := by
  cases hfind : Bag.find? name entries <;> simp [get?_append, h, get?, hfind]

theorem get?_put_self {entries : List (String × Entry)} (name : String) (value : Entry)
    (h : get? place entry = some (.folder entries)) :
    get? (place ++ [name]) (put (place ++ [name]) entry value) = some value := by
  induction place generalizing entry with
  | nil =>
    obtain rfl : entry = .folder entries := by simpa [get?] using h
    simp [put, get?]
  | cons first rest ih =>
    cases entry with
    | file content => simp [get?] at h
    | folder siblings =>
      obtain ⟨found, hfind, hrest⟩ := Option.bind_eq_some_iff.1 h
      simpa [put, get?, hfind] using ih hrest

/-- Putting keeps every entry as long as it puts a new entry or a file in place of a file. -/
theorem kept_put {target : List String} {tree value : Entry}
    (htarget : ∀ old, get? target tree = some old → ∃ a b, old = .file a ∧ value = .file b)
    (h : get? place tree = some entry) :
    ∃ after, get? place (put target tree value) = some after ∧
      Kept (place = target) entry after := by
  induction target generalizing tree place with
  | nil =>
    obtain ⟨old, new, rfl, rfl⟩ := htarget tree rfl
    cases place with
    | nil =>
      obtain rfl : Entry.file old = entry := by simpa [get?] using h
      exact ⟨.file new, rfl, .changed old new rfl⟩
    | cons first others => simp [get?] at h
  | cons name rest ih =>
    cases tree with
    | file content => exact ⟨entry, h, .refl _ _⟩
    | folder entries =>
      cases place with
      | nil =>
        obtain rfl : Entry.folder entries = entry := by simpa [get?] using h
        exact ⟨_, rfl, .folder _ _⟩
      | cons first others =>
        obtain ⟨found, hfind, hothers⟩ := Option.bind_eq_some_iff.1 h
        by_cases hname : name = first
        · subst hname
          obtain ⟨after, hafter, hkept⟩ := ih (fun old hold => htarget old (by
            simpa [get?, hfind] using hold)) hothers
          refine ⟨after, ?_, hkept.mono fun heq => heq ▸ rfl⟩
          simpa [put, get?, hfind] using hafter
        · refine ⟨entry, ?_, .refl _ _⟩
          simpa [put, get?, Bag.find?_put_of_ne _ _ hname] using h

/-- A file is at a place after something without entries was put somewhere only if this was the file,
or if the file was there before. -/
theorem get?_put_file {target : List String} {tree value : Entry} {content : ByteArray}
    (hvalue : ∀ name rest, get? (name :: rest) value = none)
    (h : get? place (put target tree value) = some (.file content)) :
    place = target ∧ value = .file content ∨ get? place tree = some (.file content) := by
  induction target generalizing place tree with
  | nil =>
    cases place with
    | nil => exact .inl ⟨rfl, Option.some.inj h⟩
    | cons name rest => exact absurd ((hvalue name rest).symm.trans h) (by simp)
  | cons name rest ih =>
    cases tree with
    | file was => exact .inr h
    | folder entries =>
      cases place with
      | nil => cases h
      | cons first others =>
        by_cases hname : name = first
        · subst hname
          rw [put, get?, Bag.find?_put_self, Option.bind_some] at h
          rcases ih h with ⟨rfl, hsame⟩ | hthere
          · exact .inl ⟨rfl, hsame⟩
          · refine .inr ?_
            cases hfind : Bag.find? name entries with
            | some found => simpa [get?, hfind] using hthere
            | none => cases others <;> simp [hfind, get?, Bag.find?] at hthere
        · refine .inr ?_
          rwa [put, get?, Bag.find?_put_of_ne _ _ hname] at h

end Entry

/-! ## Following paths -/

theorem Path.text_ne_empty {path : Path} (h : path.components ≠ []) : path.text ≠ "" := by
  intro htext
  obtain ⟨text⟩ := path
  obtain rfl : text = "" := htext
  exact h (by decide)

namespace Disk

/-- The place that components lead to from another one, whatever stands there. -/
def walk : List String → List Path.Component → List String
  | place, [] => place
  | _, .root :: rest => walk [] rest
  | place, .here :: rest => walk place rest
  | place, .up :: rest => walk place.dropLast rest
  | place, .name name :: rest => walk (place ++ [name]) rest

theorem walk_append (place : List String) (front back : List Path.Component) :
    walk place (front ++ back) = walk (walk place front) back := by
  induction front generalizing place with
  | nil => rfl
  | cons component rest ih => cases component <;> exact ih _

theorem walk_names (place names : List String) : walk place (names.map .name) = place ++ names := by
  induction names generalizing place with
  | nil => simp [walk]
  | cons name rest ih => simp [walk, ih]

/-- The place of a path. -/
def placeAt (disk : Disk) (path : Path) : List String := walk disk.here path.components

theorem placeAt_join (disk : Disk) (base : Path) {text : String} (h : Path.IsPlain text) :
    disk.placeAt (base.join text) = disk.placeAt base ++ Path.segments ⟨text⟩ := by
  rw [placeAt, Path.components_join base h, walk_append, walk_names]
  rfl

theorem placeAt_of_fileName? (disk : Disk) {path : Path} {name : String}
    (h : path.fileName? = some name) : ∃ folder, disk.placeAt path = folder ++ [name] := by
  obtain ⟨front, hfront⟩ := Path.fileName?_eq_some.1 h
  refine ⟨walk disk.here front, ?_⟩
  rw [placeAt, hfront, walk_append]
  rfl

/-- One step along a path that can be followed. -/
inductive Step (disk : Disk) (place : List String) : Path.Component → List String → Prop
  | root : Step disk place .root []
  | here : Step disk place .here place
  | up : Step disk place .up place.dropLast
  | name {name : String} {entry : Entry} (h : disk.tree.get? (place ++ [name]) = some entry) :
    Step disk place (.name name) (place ++ [name])

theorem Step.eq_walk {disk : Disk} {place next : List String} {component : Path.Component}
    (h : Step disk place component next) : next = walk place [component] := by
  cases h <;> rfl

theorem follow_cons_eq_ok {disk : Disk} {place last : List String} {component : Path.Component}
    {rest : List Path.Component} :
    disk.follow place (component :: rest) = .ok last ↔
      ∃ entries next, disk.tree.get? place = some (.folder entries) ∧
        Step disk place component next ∧ disk.follow next rest = .ok last := by
  constructor
  · intro h
    rw [follow] at h
    cases hplace : disk.tree.get? place with
    | none => simp [hplace] at h
    | some entry =>
      cases entry with
      | file content => simp [hplace] at h
      | folder entries =>
        rw [hplace] at h
        refine ⟨entries, walk place [component], rfl, ?_⟩
        cases component with
        | root => exact ⟨.root, h⟩
        | here => exact ⟨.here, h⟩
        | up => exact ⟨.up, h⟩
        | name name =>
          cases hfind : Bag.find? name entries with
          | none => simp [hfind] at h
          | some found =>
            simp only [hfind] at h
            exact ⟨.name ((Entry.get?_concat hplace).trans hfind), h⟩
  · rintro ⟨entries, next, hplace, hstep, hrest⟩
    rw [follow, hplace]
    cases hstep with
    | root => exact hrest
    | here => exact hrest
    | up => exact hrest
    | name h =>
      rw [Entry.get?_concat hplace] at h
      simpa [h] using hrest

theorem follow_eq_walk {disk : Disk} {place last : List String} {path : List Path.Component}
    (h : disk.follow place path = .ok last) : last = walk place path := by
  induction path generalizing place with
  | nil => exact (Except.ok.inj h).symm
  | cons component rest ih =>
    obtain ⟨_, next, _, hstep, hrest⟩ := follow_cons_eq_ok.1 h
    rw [ih hrest, hstep.eq_walk]
    exact (walk_append place [component] rest).symm

theorem follow_append_eq_ok {disk : Disk} {place last : List String}
    {front back : List Path.Component} :
    disk.follow place (front ++ back) = .ok last ↔
      ∃ next, disk.follow place front = .ok next ∧ disk.follow next back = .ok last := by
  induction front generalizing place with
  | nil => simp [follow]
  | cons component rest ih =>
    simp only [List.cons_append, follow_cons_eq_ok, ih]
    constructor
    · rintro ⟨entries, next, hplace, hstep, middle, hrest, hback⟩
      exact ⟨middle, ⟨entries, next, hplace, hstep, hrest⟩, hback⟩
    · rintro ⟨middle, ⟨entries, next, hplace, hstep, hrest⟩, hback⟩
      exact ⟨entries, next, hplace, hstep, middle, hrest, hback⟩

theorem locate_eq_file {disk : Disk} {path : Path} {place : List String} {content : ByteArray} :
    disk.locate path = .ok (place, .file content) ↔
      path.text ≠ "" ∧ disk.follow disk.here path.components = .ok place ∧
        disk.tree.get? place = some (.file content) ∧ namesFolder path = false := by
  by_cases htext : path.text = ""
  · simp [locate, htext, bind, Except.bind, throw, throwThe, MonadExceptOf.throw]
  cases hfollow : disk.follow disk.here path.components with
  | error fault => simp [locate, htext, hfollow, bind, Except.bind]
  | ok found =>
    simp only [locate, htext, hfollow, bind, Except.bind, pure, Except.pure, throw, throwThe,
      MonadExceptOf.throw, String.isEmpty_iff, if_false, ne_eq, not_false_eq_true, true_and,
      Except.ok.injEq]
    constructor
    · intro h
      split at h
      · simp at h
      · split at h
        · simp at h
        · simp_all
      · simp at h
    · rintro ⟨rfl, hget, hfolder⟩
      simp [hget, hfolder]

theorem readText_eq_ok {disk : Disk} {path : Path} {text : String} :
    disk.readText path = .ok text ↔
      ∃ place content, disk.locate path = .ok (place, .file content) ∧
        String.fromUTF8? content = some text := by
  rw [readText]
  constructor
  · intro h
    split at h
    · split at h
      · simp_all
      · simp at h
    · simp at h
    · simp at h
  · rintro ⟨place, content, hlocate, htext⟩
    simp [hlocate, htext]

theorem placeOf_eq_ok {disk : Disk} {path : Path} {place : List String} {last : Path.Component}
    (h : disk.placeOf path = .ok (place, last)) :
    ∃ front entries, path.components = front ++ [last] ∧
      disk.follow disk.here front = .ok place ∧ disk.tree.get? place = some (.folder entries) := by
  rw [placeOf] at h
  split at h
  · simp [throw, throwThe, MonadExceptOf.throw] at h
  · rename_i final front hreverse
    cases hfollow : disk.follow disk.here front.reverse with
    | error fault => simp [hfollow, bind, Except.bind] at h
    | ok found =>
      simp only [hfollow, bind, Except.bind] at h
      have hcomponents : path.components = front.reverse ++ [final] := by
        simpa using congrArg List.reverse hreverse
      split at h
      · simp [throw, throwThe, MonadExceptOf.throw] at h
      · simp [throw, throwThe, MonadExceptOf.throw] at h
      · rename_i entries hget
        obtain ⟨rfl, rfl⟩ : found = place ∧ final = last := by simpa [pure, Except.pure] using h
        exact ⟨front.reverse, entries, hcomponents, hfollow, hget⟩

theorem placeAt_of_placeOf {disk : Disk} {path : Path} {place : List String} {name : String}
    (h : disk.placeOf path = .ok (place, .name name)) : disk.placeAt path = place ++ [name] := by
  obtain ⟨front, entries, hcomponents, hfollow, -⟩ := placeOf_eq_ok h
  rw [placeAt, hcomponents, walk_append, ← follow_eq_walk hfollow]
  rfl

/-! ## What is kept -/

/-- All entries of a disk are still there; only files at some places may have other contents. -/
structure Keeps (mayChange : List String → Prop) (before after : Disk) : Prop where
  here : after.here = before.here
  entries : ∀ place entry, before.tree.get? place = some entry →
    ∃ entry', after.tree.get? place = some entry' ∧ Entry.Kept (mayChange place) entry entry'

namespace Keeps

variable {mayChange : List String → Prop} {before between after : Disk}

theorem refl (mayChange : List String → Prop) (disk : Disk) : Keeps mayChange disk disk :=
  ⟨rfl, fun _ entry h => ⟨entry, h, .refl _ _⟩⟩

theorem trans (h₁ : Keeps mayChange before between) (h₂ : Keeps mayChange between after) :
    Keeps mayChange before after := by
  refine ⟨h₂.here.trans h₁.here, fun place entry hentry => ?_⟩
  obtain ⟨middle, hmiddle, hkept₁⟩ := h₁.entries place entry hentry
  obtain ⟨last, hlast, hkept₂⟩ := h₂.entries place middle hmiddle
  exact ⟨last, hlast, hkept₁.trans hkept₂⟩

theorem placeAt_eq (h : Keeps mayChange before after) (path : Path) :
    after.placeAt path = before.placeAt path := by
  rw [placeAt, placeAt, h.here]

theorem folder (h : Keeps mayChange before after) {place : List String}
    {entries : List (String × Entry)} (hfolder : before.tree.get? place = some (.folder entries)) :
    ∃ entries', after.tree.get? place = some (.folder entries') := by
  obtain ⟨entry, hentry, hkept⟩ := h.entries place _ hfolder
  cases hkept with
  | folder _ entries' => exact ⟨entries', hentry⟩

theorem follow (h : Keeps mayChange before after) {place last : List String}
    {path : List Path.Component} (hpath : before.follow place path = .ok last) :
    after.follow place path = .ok last := by
  induction path generalizing place with
  | nil => exact hpath
  | cons component rest ih =>
    obtain ⟨entries, next, hplace, hstep, hrest⟩ := follow_cons_eq_ok.1 hpath
    obtain ⟨entries', hplace'⟩ := h.folder hplace
    refine follow_cons_eq_ok.2 ⟨entries', next, hplace', ?_, ih hrest⟩
    cases hstep with
    | root => exact .root
    | here => exact .here
    | up => exact .up
    | name hname =>
      obtain ⟨entry', hname', _⟩ := h.entries _ _ hname
      exact .name hname'

theorem locate_file (h : Keeps mayChange before after) {path : Path} {place : List String}
    {content : ByteArray} (hlocate : before.locate path = .ok (place, .file content))
    (hplace : ¬ mayChange place) : after.locate path = .ok (place, .file content) := by
  obtain ⟨hne, hfollow, hget, hfolder⟩ := locate_eq_file.1 hlocate
  obtain ⟨entry, hentry, hkept⟩ := h.entries place _ hget
  have hfile : entry = .file content := by
    cases hkept with
    | same content => rfl
    | changed _ _ hchange => exact absurd hchange hplace
  subst hfile
  refine locate_eq_file.2 ⟨hne, ?_, hentry, hfolder⟩
  rw [h.here]
  exact h.follow hfollow

theorem readText (h : Keeps mayChange before after) {path : Path} {text : String}
    (hread : before.readText path = .ok text) (hplace : ¬ mayChange (before.placeAt path)) :
    after.readText path = .ok text := by
  obtain ⟨place, content, hlocate, htext⟩ := readText_eq_ok.1 hread
  obtain ⟨-, hfollow, -, -⟩ := locate_eq_file.1 hlocate
  rw [placeAt, ← follow_eq_walk hfollow] at hplace
  exact readText_eq_ok.2 ⟨place, content, h.locate_file hlocate hplace, htext⟩

end Keeps

/-! ## Edits -/

/-- One change: a new folder, or a file that is new or takes the place of another one. -/
inductive Edit (mayChange : List String → Prop) (disk : Disk) : Disk → Prop
  | folder {place : List String} (h : disk.tree.get? place = none) :
      Edit mayChange disk { disk with tree := disk.tree.put place (.folder []) }
  | file {place : List String} {content : ByteArray} (hplace : mayChange place)
      (h : ∀ old, disk.tree.get? place = some old → ∃ was, old = .file was) :
      Edit mayChange disk { disk with tree := disk.tree.put place (.file content) }

/-- Any number of changes. -/
def Edits (mayChange : List String → Prop) : Disk → Disk → Prop :=
  Relation.ReflTransGen (Edit mayChange)

section

variable {mayChange other : List String → Prop} {disk before after : Disk} {path : Path}

theorem Edit.mono (h : Edit mayChange before after)
    (himp : ∀ place, mayChange place → other place) : Edit other before after := by
  cases h with
  | folder h => exact .folder h
  | file hplace h => exact .file (himp _ hplace) h

theorem Edits.mono (h : Edits mayChange before after)
    (himp : ∀ place, mayChange place → other place) : Edits other before after := by
  induction h with
  | refl => exact .refl
  | tail _ hedit ih => exact ih.tail (hedit.mono himp)

theorem Edit.keeps (h : Edit mayChange before after) : Keeps mayChange before after := by
  cases h with
  | folder hnone =>
    refine ⟨rfl, fun place entry hentry => ?_⟩
    obtain ⟨entry', hentry', hkept⟩ := Entry.kept_put
      (fun old hold => absurd (hnone.symm.trans hold) (by simp)) hentry
    refine ⟨entry', hentry', hkept.mono fun heq => ?_⟩
    rw [heq, hnone] at hentry
    cases hentry
  | file hplace hold =>
    rename_i target content
    have htarget : ∀ old, before.tree.get? target = some old →
        ∃ a b, old = .file a ∧ Entry.file content = .file b := by
      intro old hget
      obtain ⟨was, rfl⟩ := hold old hget
      exact ⟨was, content, rfl, rfl⟩
    refine ⟨rfl, fun place entry hentry => ?_⟩
    obtain ⟨entry', hentry', hkept⟩ := Entry.kept_put htarget hentry
    exact ⟨entry', hentry', hkept.mono fun heq => heq ▸ hplace⟩

theorem Edits.keeps (h : Edits mayChange before after) : Keeps mayChange before after := by
  induction h with
  | refl => exact .refl _ _
  | tail _ hedit ih => exact ih.trans hedit.keeps

theorem Edit.file_of_file (h : Edit mayChange before after) {place : List String}
    {content : ByteArray} (hafter : after.tree.get? place = some (.file content)) :
    mayChange place ∨ before.tree.get? place = some (.file content) := by
  cases h with
  | folder _ =>
    rcases Entry.get?_put_file (fun _ _ => rfl) hafter with ⟨-, hvalue⟩ | hbefore
    · cases hvalue
    · exact .inr hbefore
  | file hplace _ =>
    refine (Entry.get?_put_file (fun _ _ => rfl) hafter).imp_left fun hsame => ?_
    rwa [hsame.1]

/-- No file is new but at the places that may change. -/
theorem Edits.file_of_file (h : Edits mayChange before after) {place : List String}
    {content : ByteArray} (hafter : after.tree.get? place = some (.file content)) :
    mayChange place ∨ before.tree.get? place = some (.file content) := by
  induction h with
  | refl => exact .inr hafter
  | tail _ hedit ih => exact (hedit.file_of_file hafter).elim .inl ih

theorem makeFolder_edit (h : disk.makeFolder path = .ok after) : Edit mayChange disk after := by
  rw [makeFolder] at h
  split at h
  · split at h <;> simp at h
  · split at h
    · simp at h
    · split at h
      · simp at h
      · rename_i hnone
        obtain rfl := Except.ok.inj h
        exact .folder hnone
    · simp at h

theorem makeFolders_edits (depth : Nat) (path : Path) (disk : Disk) :
    Edits mayChange disk (makeFolders depth path disk).2 := by
  induction depth generalizing path disk with
  | zero => exact .refl
  | succ depth ih =>
    rw [makeFolders]
    split
    · exact .refl
    · split
      · rename_i made hmade
        exact .single (makeFolder_edit hmade)
      · split
        · exact .refl
        · rename_i parent hparent
          have hedits := ih parent disk
          split
          · rename_i after hafter
            rw [hafter] at hedits
            refine hedits.trans ?_
            dsimp only
            split
            · exact .single (makeFolder_edit ‹_›)
            · exact .refl
          · rename_i fault after hafter
            rw [hafter] at hedits
            exact hedits
      · exact .refl

theorem createFolders_edits (mayChange : List String → Prop) (path : Path) (disk : Disk) :
    Edits mayChange disk (disk.createFolders path).2 :=
  makeFolders_edits _ path disk

end

/-! ## Writing -/

variable {disk after : Disk} {path : Path}

theorem write_eq_ok {content : ByteArray} (h : disk.write path content = .ok after) :
    ∃ place name, disk.placeOf path = .ok (place, .name name) ∧ namesFolder path = false ∧
      (∀ old, disk.tree.get? (place ++ [name]) = some old → ∃ was, old = .file was) ∧
      after = { disk with tree := disk.tree.put (place ++ [name]) (.file content) } := by
  cases hplace : disk.placeOf path with
  | error fault => simp [write, hplace, bind, Except.bind] at h
  | ok found =>
    obtain ⟨place, last⟩ := found
    simp only [write, hplace, bind, Except.bind, throw, throwThe, MonadExceptOf.throw, pure,
      Except.pure] at h
    cases last with
    | root => simp at h
    | here => simp at h
    | up => simp at h
    | name name =>
      refine ⟨place, name, rfl, ?_⟩
      cases hget : disk.tree.get? (place ++ [name]) with
      | none => cases hfolder : namesFolder path <;> simp_all
      | some old =>
        cases old with
        | file was => cases hfolder : namesFolder path <;> simp_all
        | folder entries => simp [hget] at h

theorem write_edit {content : ByteArray} (h : disk.write path content = .ok after) :
    Edit (· = disk.placeAt path) disk after := by
  obtain ⟨place, name, hplaceOf, -, hold, rfl⟩ := write_eq_ok h
  exact .file (placeAt_of_placeOf hplaceOf).symm hold

/-- A file that is written is there, and nothing else changes. -/
theorem write_keeps {content : ByteArray} (h : disk.write path content = .ok after) :
    Keeps (· = disk.placeAt path) disk after ∧
      after.locate path = .ok (disk.placeAt path, .file content) := by
  have hkeeps := (write_edit h).keeps
  obtain ⟨place, name, hplaceOf, hfolder, -, rfl⟩ := write_eq_ok h
  obtain ⟨front, entries, hcomponents, hfollow, hplace⟩ := placeOf_eq_ok hplaceOf
  have hself := Entry.get?_put_self name (.file content) hplace
  obtain ⟨entries', hplace'⟩ := hkeeps.folder hplace
  rw [placeAt_of_placeOf hplaceOf]
  refine ⟨?_, locate_eq_file.2 ⟨Path.text_ne_empty (by simp [hcomponents]), ?_, hself, hfolder⟩⟩
  · rwa [placeAt_of_placeOf hplaceOf] at hkeeps
  · rw [hcomponents]
    exact follow_append_eq_ok.2 ⟨place, hkeeps.follow hfollow,
      follow_cons_eq_ok.2 ⟨entries', _, hplace', .name hself, rfl⟩⟩

theorem writeText_keeps {text : String} (h : disk.writeText path text = .ok after) :
    Keeps (· = disk.placeAt path) disk after ∧ after.readText path = .ok text := by
  obtain ⟨hkeeps, hlocate⟩ := write_keeps h
  have hutf8 : String.fromUTF8? text.toUTF8 = some text := dif_pos text.isValidUTF8
  exact ⟨hkeeps, readText_eq_ok.2 ⟨_, _, hlocate, hutf8⟩⟩

end Disk

end Widgetry
