import StaticSite.Proofs.File.Way

/-!
# What the operations on files do

An operation is given a path, and it changes the file system at the places on the way of this path
only: it makes directories where nothing was, or writes a file where no directory is (`AddsOnly`),
or it removes what stands at and below the place that the path leads to. If it succeeds, the result
is given place by place.
-/

namespace StaticSite

namespace FileSystem

variable {files changed last : FileSystem} {p : Path}

/-- A file system is determined by what its places hold. -/
theorem ext_entryAt? (hworking : changed.workingDirectory = files.workingDirectory)
    (hroot : changed.entries.find? [] = files.entries.find? [])
    (h : ∀ l, changed.entryAt? l = files.entryAt? l) : changed = files := by
  have hentries : changed.entries = files.entries := by
    refine Dictionary.ext_find? fun l => ?_
    by_cases hl : l = []
    · rw [hl, hroot]
    · rw [← entryAt?_of_ne_nil hl, h, entryAt?_of_ne_nil hl]
  cases changed
  cases files
  simp only at hworking hentries
  rw [hworking, hentries]

/-! ## Adding -/

/-- What may become of a place: it stays as it is, a directory is made where nothing was, or a file
is written where no directory is. -/
inductive Added (folder target : Prop) : Option FileEntry → Option FileEntry → Prop
  | same (e : Option FileEntry) : Added folder target e e
  | folder (h : folder) : Added folder target none (some .directory)
  | file {old : Option FileEntry} (h : target) (hold : old ≠ some .directory)
    (content : ByteArray) : Added folder target old (some (.file content))

namespace Added

variable {folder target folder' target' : Prop} {old mid new : Option FileEntry}

theorem trans (h : Added folder target old mid) (h' : Added folder target mid new) :
    Added folder target old new := by
  cases h' with
  | same => exact h
  | folder hfolder =>
    cases h
    exact .folder hfolder
  | file htarget hmid content =>
    refine .file htarget ?_ content
    rintro rfl
    cases h with
    | same => exact hmid rfl
    | file h hold => exact hold rfl

theorem mono (h : Added folder target old new) (hfolder : folder → folder')
    (htarget : target → target') : Added folder' target' old new := by
  cases h with
  | same => exact .same _
  | folder h => exact .folder (hfolder h)
  | file h hold content => exact .file (htarget h) hold content

theorem eq_of_not (h : Added folder target old new) (hfolder : ¬ folder) (htarget : ¬ target) :
    new = old := by
  cases h with
  | same => rfl
  | folder h => exact absurd h hfolder
  | file h => exact absurd h htarget

theorem eq_or_of_not (h : Added folder target old new) (htarget : ¬ target) :
    new = old ∨ folder ∧ old = none ∧ new = some .directory := by
  cases h with
  | same => exact .inl rfl
  | folder h => exact .inr ⟨h, rfl, rfl⟩
  | file h => exact absurd h htarget

/-- A directory stays one. -/
theorem directory (h : Added folder target old new) (hold : old = some .directory) :
    new = some .directory := by
  subst hold
  cases h with
  | same => rfl
  | file h hne content => exact absurd rfl hne

/-- A file stays one. -/
theorem ne_directory {content : ByteArray} (h : Added folder target old new)
    (hold : old = some (.file content)) : new ≠ some .directory := by
  subst hold
  cases h with
  | same => nofun
  | file h hne content => nofun

end Added

/-- As far as `scope` goes, directories are made only at `folders`, where nothing was, and files are
written only at `targets`, where no directory is. -/
structure AddsOnly (scope folders targets : Location → Prop) (files changed : FileSystem) :
    Prop where
  /-- Relative paths start where they did. -/
  workingDirectory_eq : changed.workingDirectory = files.workingDirectory
  /-- Nothing is put in place of the root. -/
  root_eq : changed.entries.find? [] = files.entries.find? []
  /-- What becomes of each place. -/
  added : ∀ l, scope l → Added (folders l) (targets l) (files.entryAt? l) (changed.entryAt? l)

namespace AddsOnly

variable {scope folders targets : Location → Prop}

theorem refl (files : FileSystem) : AddsOnly scope folders targets files files :=
  ⟨rfl, rfl, fun _ _ => .same _⟩

theorem trans (files changed last : FileSystem) (h : AddsOnly scope folders targets files changed)
    (h' : AddsOnly scope folders targets changed last) :
    AddsOnly scope folders targets files last :=
  ⟨h'.workingDirectory_eq.trans h.workingDirectory_eq, h'.root_eq.trans h.root_eq,
    fun l hl => (h.added l hl).trans (h'.added l hl)⟩

theorem mono {scope' folders' targets' : Location → Prop}
    (h : AddsOnly scope folders targets files changed) (hscope : ∀ l, scope' l → scope l)
    (hfolders : ∀ l, scope' l → folders l → folders' l)
    (htargets : ∀ l, scope' l → targets l → targets' l) :
    AddsOnly scope' folders' targets' files changed :=
  ⟨h.workingDirectory_eq, h.root_eq,
    fun l hl => (h.added l (hscope l hl)).mono (hfolders l hl) (htargets l hl)⟩

end AddsOnly

theorem entryAt?_put_of_ne_nil {l : Location} (hl : l ≠ []) (e : FileEntry) (k : Location) :
    (files.put l e).entryAt? k = if k = l then some e else files.entryAt? k := by
  rw [entryAt?_put]
  by_cases hk : k = l
  · rw [if_pos hk, if_neg (hk ▸ hl), if_pos hk.symm]
  · rw [if_neg hk, if_neg (Ne.symm hk)]
    rfl

theorem find?_put_of_ne_nil {l : Location} (hl : l ≠ []) (e : FileEntry) :
    (files.put l e).entries.find? [] = files.entries.find? [] := by
  unfold put
  rw [Dictionary.find?_insert, if_neg hl]

theorem addsOnly_put {scope folders targets : Location → Prop} {l : Location} {e : FileEntry}
    (hl : l ≠ []) (h : Added (folders l) (targets l) (files.entryAt? l) (some e)) :
    AddsOnly scope folders targets files (files.put l e) := by
  refine ⟨rfl, find?_put_of_ne_nil hl e, fun k _ => ?_⟩
  rw [entryAt?_put_of_ne_nil hl]
  by_cases hk : k = l
  · subst hk
    rw [if_pos rfl]
    exact h
  · rw [if_neg hk]
    exact .same _

theorem ne_nil_of_entryAt? {l : Location} (h : files.entryAt? l ≠ some .directory) : l ≠ [] := by
  rintro rfl
  exact h (if_pos rfl)

/-! ## Making directories -/

section Directories

variable {scope targets : Location → Prop}

/-- A directory that is made comes to the place of its path, where nothing was. -/
theorem of_makeDirectory (h : files.makeDirectory p = .ok changed) :
    IsUsable p ∧ (∀ m ∈ files.passed p, files.entryAt? m = some .directory) ∧
      files.entryAt? (files.place p) = none ∧ changed = files.put (files.place p) .directory := by
  obtain ⟨folder, name, hfollow, rfl⟩ := exists_of_makeDirectory h
  obtain ⟨hpassed, hplace, hnone⟩ := of_follow hfollow
  exact ⟨isUsable_of_follow hfollow, hpassed, hnone, by rw [hplace]⟩

theorem addsOnly_attempt {folders : Location → Prop} (h : folders (files.place p)) :
    AddsOnly scope folders targets files (makeDirectoriesFrom.attempt files p).1 := by
  unfold makeDirectoriesFrom.attempt
  split
  · exact .refl files
  · split
    · next changed hmade =>
      obtain ⟨-, -, hnone, rfl⟩ := of_makeDirectory hmade
      have hne : files.entryAt? (files.place p) ≠ some .directory := by
        rw [hnone]
        nofun
      refine addsOnly_put (ne_nil_of_entryAt? hne) ?_
      rw [hnone]
      exact .folder h
    · split <;> exact .refl files

theorem attempt_ok (h : (makeDirectoriesFrom.attempt files p).2 = .ok ()) (hp : p ≠ []) :
    (makeDirectoriesFrom.attempt files p).1.isDirectory p = true := by
  unfold makeDirectoriesFrom.attempt at h ⊢
  rw [if_neg (by simpa using hp)] at h ⊢
  split at h
  · next changed hmade =>
    obtain ⟨husable, hpassed, hnone, rfl⟩ := of_makeDirectory hmade
    have hne : files.entryAt? (files.place p) ≠ some .directory := by
      rw [hnone]
      nofun
    refine isDirectory_iff.mpr ⟨husable, fun l hl => ?_⟩
    show (files.put (files.place p) .directory).entryAt? l = _
    rw [entryAt?_put_of_ne_nil (ne_nil_of_entryAt? hne)]
    by_cases hlast : l = files.place p
    · rw [if_pos hlast]
    · rw [if_neg hlast]
      exact hpassed l ((mem_way.mp hl).resolve_right hlast)
  · next cause hfailed =>
    split at h
    · next hdirectory =>
      rw [if_pos hdirectory]
      exact hdirectory
    · cases h

/-- Whatever comes of making a directory, directories are added on the way of its path; and if it
succeeds, the path leads to a directory. -/
theorem of_makeDirectoriesFrom {parents : List Path} {root : Path}
    (hleads : ∀ q ∈ p :: parents, Path.LeadsTo q root) :
    AddsOnly scope (· ∈ files.way root) targets files (makeDirectoriesFrom files p parents).1 ∧
      ((makeDirectoriesFrom files p parents).2 = .ok () → p ≠ [] →
        (makeDirectoriesFrom files p parents).1.isDirectory p = true) := by
  have hattempt : ∀ (reached : FileSystem) q, reached.workingDirectory = files.workingDirectory →
      Path.LeadsTo q root →
      AddsOnly scope (· ∈ files.way root) targets reached
          (makeDirectoriesFrom.attempt reached q).1 ∧
        ((makeDirectoriesFrom.attempt reached q).2 = .ok () → q ≠ [] →
          (makeDirectoriesFrom.attempt reached q).1.isDirectory q = true) := by
    intro reached q hreached hq
    refine ⟨addsOnly_attempt ?_, attempt_ok⟩
    rw [place_eq hreached]
    exact way_subset_of_leadsTo hq (place_mem_way files q)
  -- the recursion is on the parents that may have to be made first
  induction parents generalizing p with
  | nil => exact hattempt files p rfl (hleads p List.mem_cons_self)
  | cons parent parents ih =>
    obtain ⟨hp, hparents⟩ := List.forall_mem_cons.mp hleads
    rw [makeDirectoriesFrom]
    split
    · next hempty => exact ⟨.refl files, fun _ hne => absurd (List.isEmpty_iff.mp hempty) hne⟩
    · split
      · have hmade := (ih hparents).1
        split
        · next reached hreached =>
          rw [hreached] at hmade
          obtain ⟨hadds, hok⟩ := hattempt reached p hmade.workingDirectory_eq hp
          exact ⟨.trans _ _ _ hmade hadds, hok⟩
        · next failed hfailed =>
          refine ⟨hmade, fun hok => ?_⟩
          exact (hfailed _ (Prod.ext rfl hok)).elim
      · exact hattempt files p rfl hp

theorem leadsTo_of_mem_cons_parents (p : Path) : ∀ q ∈ p :: Path.parents p, Path.LeadsTo q p :=
  List.forall_mem_cons.mpr ⟨.refl p, fun _ hq => Path.leadsTo_of_mem_parents hq⟩

/-- Making directories adds them on the way of the path. -/
theorem addsOnly_makeDirectories (files : FileSystem) (p : Path) :
    AddsOnly scope (· ∈ files.way p) targets files (files.makeDirectories p).1 :=
  (of_makeDirectoriesFrom (leadsTo_of_mem_cons_parents p)).1

/-- If making directories succeeds, the path leads to a directory. -/
theorem isDirectory_makeDirectories (h : (files.makeDirectories p).2 = .ok ()) (hp : p ≠ []) :
    (files.makeDirectories p).1.isDirectory p = true := by
  have hmade : AddsOnly (fun _ => True) (· ∈ files.way p) (fun _ => False) files
        (files.makeDirectories p).1 ∧
      ((files.makeDirectories p).2 = .ok () → p ≠ [] →
        (files.makeDirectories p).1.isDirectory p = true) :=
    of_makeDirectoriesFrom (leadsTo_of_mem_cons_parents p)
  exact hmade.2 h hp

/-- If making directories succeeds, they stand at all places on the way of the path, and nothing
else is changed. -/
theorem entryAt?_makeDirectories (h : (files.makeDirectories p).2 = .ok ()) (hp : p ≠ [])
    (l : Location) :
    (files.makeDirectories p).1.entryAt? l =
      if l ∈ files.way p then some .directory else files.entryAt? l := by
  have hadds : AddsOnly (fun _ => True) (· ∈ files.way p) (fun _ => False) files
      (files.makeDirectories p).1 := addsOnly_makeDirectories files p
  by_cases hl : l ∈ files.way p
  · rw [if_pos hl]
    rw [← way_eq hadds.workingDirectory_eq] at hl
    exact (isDirectory_iff.mp (isDirectory_makeDirectories h hp)).2 l hl
  · rw [if_neg hl]
    exact (hadds.added l trivial).eq_of_not hl id

/-- A directory can be made at a free place that its path leads to through directories. -/
theorem result_makeDirectories (husable : IsUsable p) (hparts : Path.parts p ≠ [])
    (hpassed : ∀ m ∈ files.passed p, files.entryAt? m = some .directory)
    (hfree : files.entryAt? (files.place p) = none)
    (hlast : ∀ m ∈ files.passed p, ¬ files.place p <+: m) :
    (files.makeDirectories p).2 = .ok () := by
  obtain ⟨folder, name, hwalk⟩ := walk_eq_free hparts hpassed hfree hlast
  have hmade : files.makeDirectory p = .ok (files.put (folder ++ [name]) .directory) := by
    have hfollow : files.follow p = .ok (.free folder name) := (follow_eq husable).trans hwalk
    unfold makeDirectory
    rw [hfollow]
  have hempty : p.isEmpty = false := by simpa using husable.ne_nil
  have hattempt : (makeDirectoriesFrom.attempt files p).2 = .ok () := by
    unfold makeDirectoriesFrom.attempt
    simp only [hempty, hmade]
    rfl
  unfold makeDirectories
  cases Path.parents p with
  | nil => exact hattempt
  | cons parent parents =>
    rw [makeDirectoriesFrom]
    simp only [hempty, hmade]
    exact hattempt

end Directories

/-! ## Writing -/

/-- A file that is written comes to the place of its path, where no directory is; all places on the
way are directories. -/
theorem of_writeFile {content : ByteArray} (h : files.writeFile p content = .ok changed) :
    (∀ m ∈ files.passed p, files.entryAt? m = some .directory) ∧
      files.entryAt? (files.place p) ≠ some .directory ∧
      changed = files.put (files.place p) (.file content) := by
  obtain ⟨l, rfl, ⟨old, hfollow⟩ | ⟨folder, name, hfollow, rfl⟩⟩ := exists_of_writeFile h
  · obtain ⟨hpassed, rfl, hplace⟩ := of_follow hfollow
    refine ⟨hpassed, ?_, rfl⟩
    rw [hplace]
    nofun
  · obtain ⟨hpassed, hname, hplace⟩ := of_follow hfollow
    refine ⟨hpassed, ?_, by rw [hname]⟩
    rw [hplace]
    nofun

theorem addsOnly_writeFile {scope folders : Location → Prop} {content : ByteArray}
    (h : files.writeFile p content = .ok changed) :
    AddsOnly scope folders (· = files.place p) files changed := by
  obtain ⟨-, hne, rfl⟩ := of_writeFile h
  exact addsOnly_put (ne_nil_of_entryAt? hne) (.file rfl hne content)

theorem entryAt?_writeFile {content : ByteArray} (h : files.writeFile p content = .ok changed)
    (l : Location) :
    changed.entryAt? l =
      if l = files.place p then some (.file content) else files.entryAt? l := by
  obtain ⟨-, hne, rfl⟩ := of_writeFile h
  exact entryAt?_put_of_ne_nil (ne_nil_of_entryAt? hne) _ l

/-- A copy is written with the bytes of the file, unless it comes to the same place. -/
theorem exists_of_copyFile {source : Path} (h : files.copyFile source p = .ok changed) :
    ∃ content, files.writeFile p content = .ok changed ∧
      (files.place source ≠ files.place p →
        files.entryAt? (files.place source) = some (.file content)) := by
  unfold copyFile at h
  split at h
  · cases h
  · cases h
  · next place content hfind =>
    obtain ⟨-, rfl, hentry⟩ := of_find hfind
    split at h
    · exact ⟨content, h, fun _ => hentry⟩
    · next old hold =>
      rw [place_of_canonical hold] at h
      refine ⟨_, h, fun hne => ?_⟩
      rw [if_neg (Ne.symm hne)]
      exact hentry

/-! ## Removing -/

theorem isPrefixOf_eq_false_iff {l k : Location} : l.isPrefixOf k = false ↔ ¬ l <+: k := by
  rw [← Bool.not_eq_true, List.isPrefixOf_iff_prefix]

theorem entryAt?_clearBelow (files : FileSystem) (l k : Location) :
    (files.clearBelow l).entryAt? k = if l <+: k ∧ k ≠ l then none else files.entryAt? k := by
  by_cases hroot : k = []
  · subst hroot
    rw [entryAt?_nil, entryAt?_nil, if_neg]
    rintro ⟨hbegins, hne⟩
    exact hne (List.prefix_nil.mp hbegins).symm
  · have hkept : (!(l.isPrefixOf k && k != l)) = true ↔ ¬ (l <+: k ∧ k ≠ l) := by
      simp [isPrefixOf_eq_false_iff, Decidable.imp_iff_not_or]
    rw [entryAt?_of_ne_nil hroot, entryAt?_of_ne_nil hroot, clearBelow,
      Dictionary.find?_filterKeys]
    by_cases hbelow : l <+: k ∧ k ≠ l
    · rw [if_pos hbelow, if_neg fun h => hkept.mp h hbelow]
    · rw [if_neg hbelow, if_pos (hkept.mpr hbelow)]

theorem entryAt?_removeFrom {l : Location} (hl : l ≠ []) (k : Location) :
    (files.removeFrom l).entryAt? k = if l <+: k then none else files.entryAt? k := by
  by_cases hroot : k = []
  · subst hroot
    rw [entryAt?_nil, entryAt?_nil, if_neg fun hbegins => hl (List.prefix_nil.mp hbegins)]
  · have hkept : (!l.isPrefixOf k) = true ↔ ¬ l <+: k := by
      simp [isPrefixOf_eq_false_iff]
    rw [entryAt?_of_ne_nil hroot, entryAt?_of_ne_nil hroot, removeFrom,
      Dictionary.find?_filterKeys]
    by_cases hat : l <+: k
    · rw [if_pos hat, if_neg fun h => hkept.mp h hat]
    · rw [if_neg hat, if_pos (hkept.mpr hat)]

theorem find?_clearBelow (files : FileSystem) (l : Location) :
    (files.clearBelow l).entries.find? [] = files.entries.find? [] := by
  unfold clearBelow
  rw [Dictionary.find?_filterKeys, if_pos]
  cases l <;> rfl

theorem find?_removeFrom {l : Location} (hl : l ≠ []) :
    (files.removeFrom l).entries.find? [] = files.entries.find? [] := by
  obtain ⟨name, rest, rfl⟩ := List.exists_cons_of_ne_nil hl
  unfold removeFrom
  rw [Dictionary.find?_filterKeys, if_pos (by simp)]

/-- Whatever comes of removing a directory, the places that are not at its own or below it are left
alone, and no place gets anything new. -/
theorem of_removeDirectory (files : FileSystem) (p : Path) :
    (files.removeDirectory p).1.workingDirectory = files.workingDirectory ∧
      (files.place p ≠ [] →
        (files.removeDirectory p).1.entries.find? [] = files.entries.find? []) ∧
      ∀ l, (files.removeDirectory p).1.entryAt? l = files.entryAt? l ∨
        files.place p <+: l ∧ (files.removeDirectory p).1.entryAt? l = none := by
  unfold removeDirectory
  split
  · exact ⟨rfl, fun _ => rfl, fun _ => .inl rfl⟩
  · exact ⟨rfl, fun _ => rfl, fun _ => .inl rfl⟩
  · next place hfind =>
    obtain ⟨-, rfl, -⟩ := of_find hfind
    have hcleared : ∀ l, (files.clearBelow (files.place p)).entryAt? l = files.entryAt? l ∨
        files.place p <+: l ∧ (files.clearBelow (files.place p)).entryAt? l = none := by
      intro l
      rw [entryAt?_clearBelow]
      by_cases hbelow : files.place p <+: l ∧ l ≠ files.place p
      · rw [if_pos hbelow]
        exact .inr ⟨hbelow.1, rfl⟩
      · rw [if_neg hbelow]
        exact .inl rfl
    have hroot := find?_clearBelow files (files.place p)
    dsimp only
    split
    · exact ⟨rfl, fun _ => hroot, hcleared⟩
    · split
      · exact ⟨rfl, fun _ => hroot, hcleared⟩
      · exact ⟨rfl, fun _ => hroot, hcleared⟩
      · refine ⟨rfl, fun hne => (find?_removeFrom hne).trans hroot, fun l => ?_⟩
        by_cases hroot : l = []
        · exact .inl (by rw [hroot, entryAt?_nil, entryAt?_nil])
        · rw [entryAt?_of_ne_nil hroot, removeFrom, Dictionary.find?_filterKeys]
          by_cases hat : files.place p <+: l
          · refine .inr ⟨hat, if_neg ?_⟩
            simpa using List.isPrefixOf_iff_prefix.mpr hat
          · rw [if_pos (by simpa using isPrefixOf_eq_false_iff.mpr hat), ← entryAt?_of_ne_nil hroot]
            exact (hcleared l).imp_right fun h => absurd h.1 hat

/-- A path that comes to its place with the last part only does not lead through what is there. -/
theorem eq_place_of_mem_way (hlast : ∀ m ∈ files.passed p, ¬ files.place p <+: m) :
    ∀ m ∈ files.way p, files.place p <+: m → m = files.place p := by
  intro m hm hbelow
  exact (mem_way.mp hm).resolve_left fun hpassed => hlast m hpassed hbelow

section RemoveDirectory

/-- A directory is removed with all that it holds, if its path has a name at the end and does not
lead through what it holds. -/
theorem removeDirectory_of_isDirectory (h : files.isDirectory p = true)
    (hdot : (Path.parts p).getLast? ≠ some ['.'])
    (hway : ∀ m ∈ files.way p, files.place p <+: m → m = files.place p) :
    files.removeDirectory p =
      ((files.clearBelow (files.place p)).removeFrom (files.place p), .ok ()) := by
  obtain ⟨husable, hdirectory⟩ := isDirectory_iff.mp h
  have hcleared : (files.clearBelow (files.place p)).find p =
      .ok (files.place p, .directory) := by
    refine find_eq_directory_iff.mpr ⟨husable, fun m hm => ?_⟩
    have hm : m ∈ files.way p := hm
    rw [entryAt?_clearBelow, if_neg]
    · exact hdirectory m hm
    · rintro ⟨hbelow, hne⟩
      exact hne (hway m hm hbelow)
  unfold removeDirectory
  rw [find_of_isDirectory h]
  simp only [if_neg hdot, hcleared]

/-- Only a directory is removed, and only by a path that does not end in a dot. -/
theorem of_removeDirectory_eq_ok (h : (files.removeDirectory p).2 = .ok ()) :
    files.isDirectory p = true ∧ (Path.parts p).getLast? ≠ some ['.'] := by
  unfold removeDirectory at h
  split at h
  · cases h
  · cases h
  · next place hfind =>
    refine ⟨?_, fun hdot => ?_⟩
    · unfold isDirectory
      rw [hfind]
    · simp only [if_pos hdot] at h
      cases h

/-- Nothing is left at and below the place of a directory that was removed. -/
theorem entryAt?_of_removeDirectory_eq_ok (h : (files.removeDirectory p).2 = .ok ())
    (hway : ∀ m ∈ files.way p, files.place p <+: m → m = files.place p)
    (hroot : files.place p ≠ []) (l : Location) :
    (files.removeDirectory p).1.entryAt? l =
      if files.place p <+: l then none else files.entryAt? l := by
  obtain ⟨hdirectory, hdot⟩ := of_removeDirectory_eq_ok h
  rw [removeDirectory_of_isDirectory hdirectory hdot hway, entryAt?_removeFrom hroot,
    entryAt?_clearBelow]
  by_cases hbelow : files.place p <+: l
  · rw [if_pos hbelow, if_pos hbelow]
  · rw [if_neg hbelow, if_neg hbelow, if_neg fun hat => hbelow hat.1]

variable (h : files.isDirectory p = true) (hlast : ∀ m ∈ files.passed p, ¬ files.place p <+: m)

include h hlast

/-- A directory can be removed, if its path comes to it with the last part only. -/
theorem result_removeDirectory : (files.removeDirectory p).2 = .ok () := by
  have hdot : (Path.parts p).getLast? ≠ some ['.'] := by
    intro hdot
    obtain ⟨before, hbefore⟩ := List.getLast?_eq_some_iff.mp hdot
    have hsame : files.place p = Location.along (files.start p) before := by
      rw [place, hbefore, Location.along_append]
      rfl
    refine hlast (files.place p) ?_ List.prefix_rfl
    rw [hsame, passed, hbefore]
    exact Location.along_mem_through_append _ _ (List.cons_ne_nil _ _)
  rw [removeDirectory_of_isDirectory h hdot (eq_place_of_mem_way hlast)]

theorem entryAt?_removeDirectory (hroot : files.place p ≠ []) (l : Location) :
    (files.removeDirectory p).1.entryAt? l =
      if files.place p <+: l then none else files.entryAt? l :=
  entryAt?_of_removeDirectory_eq_ok (result_removeDirectory h hlast) (eq_place_of_mem_way hlast)
    hroot l

end RemoveDirectory

end FileSystem

end StaticSite
