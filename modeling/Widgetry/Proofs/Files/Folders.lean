import Widgetry.Proofs.Files.Writing

/-!
Folders that are made. A path whose folders could be made names a folder from then on, and making them
again changes nothing.
-/

namespace Widgetry.Disk

variable {disk before after : Disk} {path : Path} {place : List String} {last : Path.Component}

/-! ## Paths of folders -/

theorem locate_eq_folder {entries : List (String × Entry)} :
    disk.locate path = .ok (place, .folder entries) ↔
      path.text ≠ "" ∧ disk.follow disk.here path.components = .ok place ∧
        disk.tree.get? place = some (.folder entries) := by
  by_cases htext : path.text = ""
  · simp [locate, htext, bind, Except.bind, throw, throwThe, MonadExceptOf.throw]
  cases hfollow : disk.follow disk.here path.components with
  | error fault => simp [locate, htext, hfollow, bind, Except.bind]
  | ok found =>
    simp only [locate, htext, hfollow, bind, Except.bind, pure, Except.pure, throw, throwThe,
      MonadExceptOf.throw, String.isEmpty_iff, if_false, ne_eq, not_false_eq_true, true_and,
      Except.ok.injEq]
    constructor
    · intro h
      split at h
      · simp at h
      · split at h <;> simp at h
      · simp_all
    · rintro ⟨rfl, hget⟩
      simp [hget]

theorem isFolder_iff :
    disk.isFolder path = true ↔ ∃ place entries, disk.locate path = .ok (place, .folder entries) := by
  rw [isFolder]
  constructor
  · intro h
    split at h
    · rename_i place entries hlocate
      exact ⟨place, entries, hlocate⟩
    · cases h
  · rintro ⟨place, entries, hlocate⟩
    rw [hlocate]

theorem Keeps.isFolder {mayChange : List String → Prop} (h : Keeps mayChange before after)
    (hfolder : before.isFolder path = true) : after.isFolder path = true := by
  obtain ⟨place, entries, hlocate⟩ := isFolder_iff.1 hfolder
  obtain ⟨htext, hfollow, hget⟩ := locate_eq_folder.1 hlocate
  obtain ⟨entries', hget'⟩ := h.folder hget
  refine isFolder_iff.2 ⟨place, entries', locate_eq_folder.2 ⟨htext, ?_, hget'⟩⟩
  rw [h.here]
  exact h.follow hfollow

theorem follow_names {names : List String} {entry : Entry} {entries : List (String × Entry)}
    (hplace : disk.tree.get? place = some (.folder entries))
    (h : Entry.get? names (.folder entries) = some entry) :
    disk.follow place (names.map .name) = .ok (place ++ names) := by
  induction names generalizing place entries with
  | nil => simp [follow]
  | cons name rest ih =>
    obtain ⟨found, hfound, hrest⟩ := Option.bind_eq_some_iff.1 h
    have hget := (Entry.get?_concat hplace).trans hfound
    refine follow_cons_eq_ok.2 ⟨entries, _, hplace, .name hget, ?_⟩
    cases rest with
    | nil => rfl
    | cons next others =>
      cases found with
      | file content => cases hrest
      | folder inner => simpa using ih hget hrest

/-- A file below a folder is found under its path from there. -/
theorem locate_join {text : String} {entries : List (String × Entry)} {content : ByteArray}
    (hfolder : disk.locate path = .ok (place, .folder entries)) (htext : Path.IsPlain text)
    (hfile : Entry.get? (Path.segments ⟨text⟩) (.folder entries) = some (.file content)) :
    disk.locate (path.join text) = .ok (place ++ Path.segments ⟨text⟩, .file content) := by
  obtain ⟨hne, hfollow, hget⟩ := locate_eq_folder.1 hfolder
  refine locate_eq_file.2 ⟨Path.join_ne_empty text hne, ?_, ?_, ?_⟩
  · rw [Path.components_join path htext]
    exact follow_append_eq_ok.2 ⟨place, hfollow, follow_names hget hfile⟩
  · rw [Entry.get?_append, hget, Option.bind_some, hfile]
  · rw [namesFolder, Path.getLast?_segments_join path htext]
    have hlast := List.getLast?_eq_some_getLast (Path.segments_ne_nil ⟨text⟩)
    rw [hlast, Option.any_some]
    exact (htext _ (List.getLast_mem _)).1

theorem isFile_iff :
    disk.isFile path = true ↔ ∃ place content, disk.locate path = .ok (place, .file content) := by
  rw [isFile]
  constructor
  · intro h
    split at h
    · next place content hlocate => exact ⟨place, content, hlocate⟩
    · cases h
  · rintro ⟨place, content, hlocate⟩
    rw [hlocate]

/-- A file in a folder is there after some edits if and only if it was there before, unless it may
have changed. -/
theorem Edits.locate_join {mayChange : List String → Prop} (h : Edits mayChange before after)
    {name : String} {content : ByteArray} (hfolder : before.isFolder path = true)
    (hname : Path.IsName name) (hplace : ¬ mayChange (before.placeAt (path.join name)))
    {place : List String} :
    after.locate (path.join name) = .ok (place, .file content) ↔
      before.locate (path.join name) = .ok (place, .file content) := by
  constructor
  · intro hafter
    obtain ⟨found, entries, hlocate⟩ := isFolder_iff.1 hfolder
    obtain ⟨-, hfollow, hget⟩ := locate_eq_folder.1 hlocate
    obtain ⟨-, hfollow', hget', -⟩ := locate_eq_file.1 hafter
    have hplaceAt : before.placeAt (path.join name) = found ++ Path.segments ⟨name⟩ := by
      rw [placeAt_join before path hname.2, placeAt, ← follow_eq_walk hfollow]
    obtain rfl : place = found ++ Path.segments ⟨name⟩ := by
      rw [← hplaceAt, ← h.keeps.placeAt_eq, placeAt, follow_eq_walk hfollow']
    rw [hplaceAt] at hplace
    have hthere := (h.file_of_file hget').resolve_left hplace
    rw [Entry.get?_append, hget, Option.bind_some] at hthere
    exact Disk.locate_join hlocate hname.2 hthere
  · intro hbefore
    obtain ⟨-, hfollow, -, -⟩ := locate_eq_file.1 hbefore
    rw [placeAt, ← follow_eq_walk hfollow] at hplace
    exact h.keeps.locate_file hbefore hplace

theorem placeOf_of_follow {front : List Path.Component} {entries : List (String × Entry)}
    (hcomponents : path.components = front ++ [last])
    (hfollow : disk.follow disk.here front = .ok place)
    (hget : disk.tree.get? place = some (.folder entries)) :
    disk.placeOf path = .ok (place, last) := by
  have hreverse : path.components.reverse = last :: front.reverse := by simp [hcomponents]
  rw [placeOf, hreverse]
  simp [hfollow, hget, bind, Except.bind, pure, Except.pure]

theorem Keeps.placeOf {mayChange : List String → Prop} (h : Keeps mayChange before after)
    (hplace : before.placeOf path = .ok (place, last)) : after.placeOf path = .ok (place, last) := by
  obtain ⟨front, entries, hcomponents, hfollow, hget⟩ := placeOf_eq_ok hplace
  obtain ⟨entries', hget'⟩ := h.folder hget
  refine placeOf_of_follow hcomponents ?_ hget'
  rw [h.here]
  exact h.follow hfollow

/-- A file that is there can be written. -/
theorem write_of_file {name : String} {was : ByteArray}
    (hplace : disk.placeOf path = .ok (place, .name name)) (hname : namesFolder path = false)
    (hfile : disk.tree.get? (place ++ [name]) = some (.file was)) (content : ByteArray) :
    disk.write path content
      = .ok { disk with tree := disk.tree.put (place ++ [name]) (.file content) } := by
  simp [write, hplace, hname, hfile, bind, Except.bind, pure, Except.pure]

/-! ## Making folders -/

/-- A folder that is there is not made again. -/
theorem makeFolder_of_isFolder (hcomponents : path.components ≠ []) (h : disk.isFolder path = true) :
    disk.makeFolder path = .error .taken := by
  obtain ⟨place, entries, hlocate⟩ := isFolder_iff.1 h
  obtain ⟨htext, hfollow, hget⟩ := locate_eq_folder.1 hlocate
  obtain ⟨front, last, hfront⟩ := List.eq_nil_or_concat'  path.components |>.resolve_left hcomponents
  rw [hfront] at hfollow
  obtain ⟨parent, hparent, hlast⟩ := follow_append_eq_ok.1 hfollow
  obtain ⟨siblings, next, hsiblings, hstep, -⟩ := follow_cons_eq_ok.1 hlast
  rw [makeFolder, hlocate, placeOf_of_follow hfront hparent hsiblings]
  split
  · rfl
  · cases hstep with
    | root => rfl
    | here => rfl
    | up => rfl
    | name hentry => simp [hentry]

theorem createFolders_of_isFolder (h : path.components = [] ∨ disk.isFolder path = true) :
    disk.createFolders path = (.ok (), disk) := by
  rw [createFolders, makeFolders]
  by_cases hempty : path.components = []
  · simp [hempty]
  · have hfolder := h.resolve_left hempty
    rw [if_neg (by simpa using hempty), makeFolder_of_isFolder hempty hfolder]
    simp [hfolder]

theorem isFolder_of_makeFolder (h : disk.makeFolder path = .ok after) : after.isFolder path = true := by
  have hkeeps : Keeps (fun _ => False) disk after := (makeFolder_edit h).keeps
  rw [makeFolder] at h
  split at h
  · split at h <;> cases h
  · split at h
    · cases h
    · rename_i place name hplaceOf
      split at h
      · cases h
      · rename_i hnone
        obtain ⟨front, entries, hcomponents, hfollow, hget⟩ := placeOf_eq_ok hplaceOf
        obtain ⟨entries', hget'⟩ := hkeeps.folder hget
        have hself := Entry.get?_put_self name (.folder []) hget
        obtain rfl := Except.ok.inj h
        have htext : path.text ≠ "" := Path.text_ne_empty (by simp [hcomponents])
        refine isFolder_iff.2 ⟨place ++ [name], [], locate_eq_folder.2 ⟨htext, ?_, hself⟩⟩
        rw [hcomponents]
        exact follow_append_eq_ok.2 ⟨place, hkeeps.follow hfollow,
          follow_cons_eq_ok.2 ⟨entries', _, hget', .name hself, rfl⟩⟩
    · cases h

/-- Folders that could be made are there. -/
theorem isFolder_of_createFolders (h : disk.createFolders path = (.ok (), after)) :
    path.components = [] ∨ after.isFolder path = true := by
  -- Whatever the last attempt to make the folder says, it is asked whether the folder is there.
  have hasked : ∀ {between : Disk} {fault : FileFault},
      (if between.isFolder path then Except.ok () else .error fault, between) = (.ok (), after) →
        after.isFolder path = true := by
    intro between fault h
    obtain ⟨hok, rfl⟩ := Prod.mk.inj h
    split at hok
    · assumption
    · cases hok
  rw [createFolders, makeFolders] at h
  split at h
  · rename_i hempty
    exact .inl (by simpa using hempty)
  · refine .inr ?_
    split at h
    · rename_i hmade
      obtain ⟨-, rfl⟩ := Prod.mk.inj h
      exact isFolder_of_makeFolder hmade
    · split at h
      · cases h
      · split at h
        · dsimp only at h
          split at h
          · rename_i hmade
            obtain ⟨-, rfl⟩ := Prod.mk.inj h
            exact isFolder_of_makeFolder hmade
          · exact hasked h
        · cases h
    · exact hasked h

end Widgetry.Disk
