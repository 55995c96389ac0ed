import StaticSite.File.System

/-!
# What changes in a file system

A file system is compared with an earlier one place by place: `ChangesOnly` allows the changes, and
all other places hold what they held. Each operation puts one entry at one place, or several one
after the other.
-/

namespace StaticSite

namespace FileSystem

/-- Each place holds what it held before, or something that is allowed there now. -/
def ChangesOnly (allowed : Location → Option FileEntry → Prop) (files changed : FileSystem) : Prop :=
  ∀ l, changed.entryAt? l = files.entryAt? l ∨ allowed l (changed.entryAt? l)

variable {allowed : Location → Option FileEntry → Prop} {files changed : FileSystem}

theorem ChangesOnly.refl (files : FileSystem) : ChangesOnly allowed files files :=
  fun _ => .inl rfl

theorem ChangesOnly.trans (files changed last : FileSystem) (h : ChangesOnly allowed files changed)
    (hlast : ChangesOnly allowed changed last) : ChangesOnly allowed files last := by
  intro l
  rcases hlast l with heq | hallowed
  · rw [heq]
    exact h l
  · exact .inr hallowed

theorem ChangesOnly.mono {other : Location → Option FileEntry → Prop}
    (h : ChangesOnly allowed files changed) (hle : ∀ l e, allowed l e → other l e) :
    ChangesOnly other files changed :=
  fun l => (h l).imp_right (hle l _)

@[simp]
theorem entryAt?_nil (files : FileSystem) : files.entryAt? [] = some .directory :=
  if_pos rfl

theorem entryAt?_of_ne_nil {l : Location} (h : l ≠ []) :
    files.entryAt? l = files.entries.find? l :=
  if_neg h

theorem entryAt?_put (files : FileSystem) (l : Location) (e : FileEntry) (k : Location) :
    (files.put l e).entryAt? k =
      if k = [] then some .directory else if l = k then some e else files.entries.find? k := by
  unfold entryAt?
  split
  · rfl
  · exact Dictionary.find?_insert files.entries l e k

theorem changesOnly_put {l : Location} {e : FileEntry} (h : allowed l (some e)) :
    ChangesOnly allowed files (files.put l e) := by
  intro k
  rw [entryAt?_put]
  by_cases hroot : k = []
  · exact .inl (by rw [if_pos hroot, entryAt?, if_pos hroot])
  · rw [if_neg hroot]
    by_cases hk : l = k
    · subst hk
      exact .inr (by rwa [if_pos rfl])
    · exact .inl (by rw [if_neg hk, entryAt?, if_neg hroot])

/-! ## Operations -/

/-- A directory is made at a free name. -/
theorem exists_of_makeDirectory {p : Path} (h : files.makeDirectory p = .ok changed) :
    ∃ folder name, files.follow p = .ok (.free folder name) ∧
      changed = files.put (folder ++ [name]) .directory := by
  unfold makeDirectory at h
  split at h
  · cases h
  · cases h
  · next folder name hfollow => exact ⟨folder, name, hfollow, (Except.ok.inj h).symm⟩

/-- A file is written at a place with a file, or at a free name. -/
theorem exists_of_writeFile {p : Path} {content : ByteArray}
    (h : files.writeFile p content = .ok changed) :
    ∃ l, changed = files.put l (.file content) ∧
      ((∃ old, files.follow p = .ok (.found l (.file old))) ∨
        ∃ folder name, files.follow p = .ok (.free folder name) ∧ l = folder ++ [name]) := by
  unfold writeFile at h
  split at h
  · cases h
  · cases h
  · next place old hfollow =>
    split at h
    · cases h
    · exact ⟨place, (Except.ok.inj h).symm, .inl ⟨old, hfollow⟩⟩
  · next folder name hfollow =>
    split at h
    · cases h
    · exact ⟨folder ++ [name], (Except.ok.inj h).symm, .inr ⟨folder, name, hfollow, rfl⟩⟩

section Directories

variable (hdirectory : ∀ l, allowed l (some .directory))

include hdirectory

theorem changesOnly_attempt (p : Path) :
    ChangesOnly allowed files (makeDirectoriesFrom.attempt files p).1 := by
  unfold makeDirectoriesFrom.attempt
  split
  · exact .refl files
  · split
    · next changed hmade =>
      obtain ⟨folder, name, -, rfl⟩ := exists_of_makeDirectory hmade
      exact changesOnly_put (hdirectory _)
    · split <;> exact .refl files

/-- Making directories changes nothing but that some places hold directories. -/
theorem changesOnly_makeDirectories (p : Path) :
    ChangesOnly allowed files (files.makeDirectories p).1 := by
  unfold makeDirectories
  -- the recursion is on the parents that may have to be made first
  induction Path.parents p generalizing files p with
  | nil => exact changesOnly_attempt hdirectory p
  | cons parent parents ih =>
    rw [makeDirectoriesFrom]
    split
    · exact .refl files
    · split
      · have hparents : ChangesOnly allowed files (makeDirectoriesFrom files parent parents).1 :=
          ih parent
        split
        · next changed hmade =>
          rw [hmade] at hparents
          exact .trans _ _ _ hparents (changesOnly_attempt hdirectory p)
        · next failed hfailed => exact hparents
      · exact changesOnly_attempt hdirectory p

end Directories

end FileSystem

end StaticSite
