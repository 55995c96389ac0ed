import StaticSite.Proofs.Site.Frame

/-!
# The prepared destination

A compilation begins by making its destination an empty directory (`Emptied`). That is what comes of
it if the path of the destination shows what there is to delete (`Foreseen.emptied`), as it does if
it leads to it at the end only (`ArrivesLast`): a path that goes through the destination, or that
cannot be followed before the compilation has made a folder on its way, leads elsewhere while the
old destination is deleted.
-/

namespace StaticSite

open FileSystem (AddsOnly)

variable {source destination : Path} {files prepared : FileSystem}

/-- A path that does not come to its place, or to what is below it, before its end. -/
structure FileSystem.ArrivesLast (files : FileSystem) (p : Path) : Prop where
  /-- It is not empty. -/
  ne_nil : p ≠ []
  /-- It has not been there before. -/
  not_prefix : ∀ m ∈ files.passed p, ¬ files.place p <+: m

/-- The destination is an empty directory that its path leads to, and nothing else is changed but
that folders were made on the way. -/
structure Emptied (destination : Path) (files prepared : FileSystem) : Prop where
  /-- Relative paths start where they did. -/
  workingDirectory_eq : prepared.workingDirectory = files.workingDirectory
  /-- Nothing is put in place of the root. -/
  root_eq : prepared.entries.find? [] = files.entries.find? []
  /-- The path leads to a directory. -/
  isDirectory : prepared.isDirectory destination = true
  /-- What each place holds. -/
  entryAt?_eq : ∀ l, prepared.entryAt? l =
    if l ∈ files.way destination then some .directory
    else if files.place destination <+: l then none
    else files.entryAt? l

namespace Emptied

/-- What was in the destination makes no difference. -/
theorem unique {later again : FileSystem} (h : Emptied destination files prepared)
    (hagain : Emptied destination later again)
    (hworking : later.workingDirectory = files.workingDirectory)
    (hroot : later.entries.find? [] = files.entries.find? [])
    (hsame : ∀ l, l ∉ files.way destination → ¬ files.place destination <+: l →
      later.entryAt? l = files.entryAt? l) : again = prepared := by
  refine FileSystem.ext_entryAt? ?_ ?_ fun l => ?_
  · rw [hagain.workingDirectory_eq, hworking, h.workingDirectory_eq]
  · rw [hagain.root_eq, hroot, h.root_eq]
  · rw [hagain.entryAt?_eq, h.entryAt?_eq, FileSystem.way_eq hworking,
      FileSystem.place_eq hworking]
    by_cases hway : l ∈ files.way destination
    · rw [if_pos hway, if_pos hway]
    · rw [if_neg hway, if_neg hway]
      by_cases hbelow : files.place destination <+: l
      · rw [if_pos hbelow, if_pos hbelow]
      · rw [if_neg hbelow, if_neg hbelow]
        exact hsame l hway hbelow

variable (h : Emptied destination files prepared)

include h

theorem directory_of_mem_way : ∀ m ∈ prepared.way destination,
    prepared.entryAt? m = some .directory := by
  exact (FileSystem.isDirectory_iff.mp h.isDirectory).2

/-- Nothing is in the destination. -/
theorem entryAt?_below (hlast : files.ArrivesLast destination) {rel : Location} (hrel : rel ≠ []) :
    prepared.entryAt? (files.place destination ++ rel) = none := by
  have hbelow : files.place destination <+: files.place destination ++ rel :=
    List.prefix_append _ _
  rw [h.entryAt?_eq, if_neg, if_pos hbelow]
  intro hway
  rcases FileSystem.mem_way.mp hway with hpassed | hsame
  · exact hlast.not_prefix _ hpassed hbelow
  · exact hrel (by simpa using hsame)

/-- What was there elsewhere is still there. -/
theorem entryAt?_of_ne_none {l : Location} (houtside : ¬ files.place destination <+: l)
    (hway : l ∈ files.way destination → files.entryAt? l = some .directory) :
    prepared.entryAt? l = files.entryAt? l := by
  rw [h.entryAt?_eq]
  by_cases hmem : l ∈ files.way destination
  · rw [if_pos hmem, hway hmem]
  · rw [if_neg hmem, if_neg houtside]

end Emptied

/-! ## Changes in the destination -/

/-- Files are changed in a directory only, and its path still leads to it. -/
structure KeepsOutside (destination : Path) (files changed : FileSystem) : Prop where
  /-- Relative paths start where they did. -/
  workingDirectory_eq : changed.workingDirectory = files.workingDirectory
  /-- Nothing is put in place of the root. -/
  root_eq : changed.entries.find? [] = files.entries.find? []
  /-- The path of the destination leads to a directory. -/
  directory : ∀ m ∈ files.way destination, changed.entryAt? m = some .directory
  /-- Nothing is changed outside of the destination. -/
  outside : ∀ l, ¬ files.place destination <+: l → changed.entryAt? l = files.entryAt? l

theorem KeepsOutside.trans {destination : Path} {files changed last : FileSystem}
    (h : KeepsOutside destination files changed) (h' : KeepsOutside destination changed last) :
    KeepsOutside destination files last := by
  have hway := FileSystem.way_eq h.workingDirectory_eq destination
  have hplace := FileSystem.place_eq h.workingDirectory_eq destination
  refine ⟨h'.workingDirectory_eq.trans h.workingDirectory_eq, h'.root_eq.trans h.root_eq,
    hway ▸ h'.directory, fun l hl => ?_⟩
  rw [h'.outside l (hplace ▸ hl), h.outside l hl]

/-! ## Preparing -/

/-- A path that leads to something finds it at its place. -/
theorem FileSystem.exists_find_of_pathExists {p : Path} (h : files.pathExists p = true) :
    ∃ e, files.find p = .ok (files.place p, e) := by
  unfold FileSystem.pathExists at h
  split at h
  · next found hfind =>
    obtain ⟨-, hplace, -⟩ := FileSystem.of_find hfind
    exact ⟨found.2, hplace ▸ hfind⟩
  · cases h

theorem FileSystem.pathExists_of_isDirectory {p : Path} (h : files.isDirectory p = true) :
    files.pathExists p = true := by
  unfold FileSystem.pathExists
  rw [FileSystem.find_of_isDirectory h]

theorem FileSystem.canonical_of_pathExists {p : Path} (h : files.pathExists p = true) :
    files.canonical p = .ok (files.place p) := by
  obtain ⟨e, hfind⟩ := FileSystem.exists_find_of_pathExists h
  unfold FileSystem.canonical
  rw [hfind]
  rfl

theorem FileSystem.canonical_of_isDirectory {p : Path} (h : files.isDirectory p = true) :
    files.canonical p = .ok (files.place p) :=
  FileSystem.canonical_of_pathExists (FileSystem.pathExists_of_isDirectory h)

/-- Nothing is below a free place, the place of a directory included. -/
theorem FileSystem.IsTree.apart_of_free {p q : Path} (htree : files.IsTree)
    (hdirectory : files.isDirectory p = true) (hfree : files.entryAt? (files.place q) = none) :
    ¬ files.place q <+: files.place p ∧
      ∀ rel, rel ≠ [] → files.entryAt? (files.place q ++ rel) = none := by
  refine ⟨fun hbelow => ?_, fun rel _ => htree.entryAt?_below hfree (List.prefix_append _ _)⟩
  have hentry := (FileSystem.isDirectory_iff.mp hdirectory).2 _ (FileSystem.place_mem_way files p)
  rw [htree.entryAt?_below hfree hbelow] at hentry
  cases hentry

/-- An old destination that does not hold the source is removed. -/
theorem run_deleteDestination (hsource : files.isDirectory source = true)
    (hexists : files.pathExists destination = true)
    (hapart : ¬ files.place destination <+: files.place source) :
    ((deleteDestination source destination).run files).1.result =
        ((change .destinationNotDeleted destination fun files =>
          files.removeDirectory destination).run files).1.result ∧
      ((deleteDestination source destination).run files).2 =
        (files.removeDirectory destination).1 := by
  have hbegins : ¬ (files.place destination).isPrefixOf (files.place source) = true := by
    rwa [List.isPrefixOf_iff_prefix]
  have hrun : (deleteDestination source destination).run files =
      (Stage.note (.deletingDestination destination) >>= fun _ =>
        change .destinationNotDeleted destination fun files =>
          files.removeDirectory destination).run files := by
    show deleteDestination source destination files = _
    unfold deleteDestination
    rw [FileSystem.canonical_of_isDirectory hsource,
      FileSystem.canonical_of_pathExists hexists]
    exact if_neg hbegins
  rw [hrun, Stage.result_bind, Stage.state_bind, Stage.run_note]
  exact ⟨rfl, state_change _ _ _ files⟩

/-- A destination that is not found is made. -/
theorem run_prepareDestination_of_not_pathExists (h : ¬ files.pathExists destination = true) :
    (prepareDestination source destination).run files =
      (change .destinationNotMade destination fun files =>
        files.makeDirectories destination).run files := by
  unfold prepareDestination
  rw [Stage.run_get_bind]
  dsimp only
  rw [if_neg h]

/-- A destination that is found is deleted and made again. -/
theorem run_prepareDestination_of_pathExists (h : files.pathExists destination = true) :
    (prepareDestination source destination).run files =
      (deleteDestination source destination >>= fun _ =>
        change .destinationNotMade destination fun files =>
          files.makeDirectories destination).run files := by
  unfold prepareDestination
  rw [Stage.run_get_bind]
  dsimp only
  rw [if_pos h]

/-- A destination that is found and holds the source is refused. -/
theorem prepareDestination_of_holds (hsource : files.isDirectory source = true)
    (hexists : files.pathExists destination = true)
    (hholds : files.place destination <+: files.place source) :
    ((prepareDestination source destination).run files).1.result =
        .error (.directory .destinationHoldsSource (files.place destination).path none) ∧
      ((prepareDestination source destination).run files).2 = files := by
  have hdelete : (deleteDestination source destination).run files =
      (.fail (.directory .destinationHoldsSource (files.place destination).path none), files) := by
    show deleteDestination source destination files = _
    unfold deleteDestination
    rw [FileSystem.canonical_of_isDirectory hsource, FileSystem.canonical_of_pathExists hexists]
    exact if_pos (List.isPrefixOf_iff_prefix.mpr hholds)
  rw [run_prepareDestination_of_pathExists hexists, Stage.result_bind, Stage.state_bind, hdelete]
  exact ⟨rfl, rfl⟩

/-- A destination that was prepared, from what was left of it when it was deleted: it is a
directory, as are all places on the way there, and nothing else is changed. -/
structure PreparedFrom (source destination : Path) (files cleared prepared : FileSystem) :
    Prop where
  /-- Relative paths start where they did. -/
  workingDirectory_eq : prepared.workingDirectory = files.workingDirectory
  /-- Nothing is put in place of the root. -/
  root_eq : prepared.entries.find? [] = files.entries.find? []
  /-- The path leads to a directory. -/
  isDirectory : prepared.isDirectory destination = true
  /-- What each place holds. -/
  entryAt?_eq : ∀ l, prepared.entryAt? l =
    if l ∈ files.way destination then some .directory else cleared.entryAt? l
  /-- It was not found, or it was deleted, as the source was not in it. -/
  cleared : ¬ files.pathExists destination = true ∧ cleared = files ∨
    ¬ files.place destination <+: files.place source ∧
      files.removeDirectory destination = (cleared, .ok ())

/-- Preparing succeeds by making the destination, after deleting it if it was found. -/
theorem exists_of_prepareDestination (hsource : files.isDirectory source = true)
    (h : ((prepareDestination source destination).run files).1.result = .ok ()) :
    ∃ cleared : FileSystem,
      ((prepareDestination source destination).run files).2 =
        (cleared.makeDirectories destination).1 ∧
      (cleared.makeDirectories destination).2 = .ok () ∧
      (¬ files.pathExists destination = true ∧ cleared = files ∨
        ¬ files.place destination <+: files.place source ∧
          files.removeDirectory destination = (cleared, .ok ())) := by
  by_cases hexists : files.pathExists destination = true
  · have hapart : ¬ files.place destination <+: files.place source := by
      intro hholds
      rw [(prepareDestination_of_holds hsource hexists hholds).1] at h
      cases h
    obtain ⟨hresult, hstate⟩ := run_deleteDestination hsource hexists hapart
    rw [run_prepareDestination_of_pathExists hexists, Stage.result_bind, hstate] at h
    rw [run_prepareDestination_of_pathExists hexists, Stage.state_bind, hstate]
    cases hdeleted : ((deleteDestination source destination).run files).1.result with
    | error e =>
      rw [hdeleted] at h
      cases h
    | ok =>
      rw [hdeleted] at h hresult
      have hremoved := result_change_eq_ok_iff.mp hresult.symm
      exact ⟨(files.removeDirectory destination).1, state_change _ _ _ _,
        result_change_eq_ok_iff.mp h, .inr ⟨hapart, Prod.ext rfl hremoved⟩⟩
  · rw [run_prepareDestination_of_not_pathExists hexists] at h ⊢
    exact ⟨files, state_change _ _ _ _, result_change_eq_ok_iff.mp h, .inl ⟨hexists, rfl⟩⟩

theorem exists_preparedFrom (hsource : files.isDirectory source = true)
    (h : ((prepareDestination source destination).run files).1.result = .ok ())
    (hne : destination ≠ []) :
    ∃ cleared, PreparedFrom source destination files cleared
      ((prepareDestination source destination).run files).2 := by
  obtain ⟨cleared, hprepared, hmade, hcleared⟩ := exists_of_prepareDestination hsource h
  have hkept : cleared.workingDirectory = files.workingDirectory ∧
      cleared.entries.find? [] = files.entries.find? [] := by
    rcases hcleared with ⟨-, rfl⟩ | ⟨hapart, hremoved⟩
    · exact ⟨rfl, rfl⟩
    · have hroot : files.place destination ≠ [] := fun hroot =>
        hapart (hroot ▸ List.nil_prefix)
      obtain ⟨hworking, hrootEntry, -⟩ := FileSystem.of_removeDirectory files destination
      rw [hremoved] at hworking hrootEntry
      exact ⟨hworking, hrootEntry hroot⟩
  have hadds : AddsOnly (fun _ => True) (· ∈ _) (fun _ => False) cleared
      (cleared.makeDirectories destination).1 :=
    FileSystem.addsOnly_makeDirectories cleared destination
  rw [hprepared]
  refine ⟨cleared, hadds.workingDirectory_eq.trans hkept.1, hadds.root_eq.trans hkept.2,
    FileSystem.isDirectory_makeDirectories hmade hne, fun l => ?_, hcleared⟩
  rw [FileSystem.entryAt?_makeDirectories hmade hne, FileSystem.way_eq hkept.1]

/-- The path shows what there is to delete: it does not lead through the content of the destination,
and if it leads to nothing yet, there is nothing at the place that it will lead to. -/
structure Foreseen (source destination : Path) (files : FileSystem) : Prop where
  /-- The path is not empty. -/
  ne_nil : destination ≠ []
  /-- The path does not lead through what is below its place. -/
  way : ∀ m ∈ files.way destination, files.place destination <+: m → m = files.place destination
  /-- The path leads to something, or to a place with nothing below it and the source elsewhere. -/
  seen : files.pathExists destination = true ∨
    ¬ files.place destination <+: files.place source ∧
      ∀ rel, rel ≠ [] → files.entryAt? (files.place destination ++ rel) = none

/-- A foreseen destination is empty when it is prepared, and the source is not in it. -/
theorem Foreseen.emptied (h : Foreseen source destination files)
    (hsource : files.isDirectory source = true)
    (hok : ((prepareDestination source destination).run files).1.result = .ok ()) :
    Emptied destination files ((prepareDestination source destination).run files).2 ∧
      ¬ files.place destination <+: files.place source := by
  obtain ⟨cleared, hprepared⟩ := exists_preparedFrom hsource hok h.ne_nil
  -- beside the way of the path, nothing is left of the old destination
  have hcleared : ¬ files.place destination <+: files.place source ∧
      ∀ l, l ∉ files.way destination → cleared.entryAt? l =
        if files.place destination <+: l then none else files.entryAt? l := by
    rcases hprepared.cleared with ⟨hunseen, rfl⟩ | ⟨hapart, hremoved⟩
    · obtain ⟨hapart, hfree⟩ := h.seen.resolve_left hunseen
      refine ⟨hapart, fun l hl => ?_⟩
      split
      · next hbelow =>
        obtain ⟨rel, rfl⟩ := hbelow
        refine hfree rel ?_
        rintro rfl
        rw [List.append_nil] at hl
        exact hl (FileSystem.place_mem_way _ destination)
      · rfl
    · have hroot : files.place destination ≠ [] := fun hroot =>
        hapart (hroot ▸ List.nil_prefix)
      have hgone := FileSystem.entryAt?_of_removeDirectory_eq_ok (congrArg Prod.snd hremoved)
        h.way hroot
      rw [hremoved] at hgone
      exact ⟨hapart, fun l _ => hgone l⟩
  refine ⟨⟨hprepared.workingDirectory_eq, hprepared.root_eq, hprepared.isDirectory, fun l => ?_⟩,
    hcleared.1⟩
  rw [hprepared.entryAt?_eq]
  by_cases hway : l ∈ files.way destination
  · rw [if_pos hway, if_pos hway]
  · rw [if_neg hway, if_neg hway, hcleared.2 l hway]

section Prepare

variable (hlast : files.ArrivesLast destination)

include hlast

/-- A directory that was removed can be made again. -/
theorem result_makeDirectories_of_removed (hdestination : files.isDirectory destination = true)
    (hroot : files.place destination ≠ []) :
    ((files.removeDirectory destination).1.makeDirectories destination).2 = .ok () := by
  obtain ⟨husable, hway⟩ := FileSystem.isDirectory_iff.mp hdestination
  have hentries := FileSystem.entryAt?_removeDirectory hdestination hlast.not_prefix hroot
  obtain ⟨hworking, -, -⟩ := FileSystem.of_removeDirectory files destination
  have hparts : Path.parts destination ≠ [] := by
    cases habs : Path.isAbsolute destination with
    | false => exact Path.parts_ne_nil habs hlast.ne_nil
    | true =>
      intro hnone
      refine hroot ?_
      unfold FileSystem.place FileSystem.start
      rw [habs, hnone]
      rfl
  refine FileSystem.result_makeDirectories husable hparts ?_ ?_ ?_
  · intro m hm
    rw [FileSystem.passed_eq hworking] at hm
    rw [hentries, if_neg (hlast.not_prefix m hm)]
    exact hway m (FileSystem.mem_way.mpr (.inl hm))
  · rw [FileSystem.place_eq hworking, hentries, if_pos List.prefix_rfl]
  · rw [FileSystem.place_eq hworking, FileSystem.passed_eq hworking]
    exact hlast.not_prefix

/-- Preparing a destination that is a directory already. -/
theorem prepareDestination_of_isDirectory (hsource : files.isDirectory source = true)
    (hdestination : files.isDirectory destination = true)
    (hapart : ¬ files.place destination <+: files.place source) :
    ((prepareDestination source destination).run files).1.result = .ok () ∧
      Emptied destination files ((prepareDestination source destination).run files).2 := by
  have hroot : files.place destination ≠ [] := by
    intro hroot
    exact hapart (hroot ▸ List.nil_prefix)
  have hexists := FileSystem.pathExists_of_isDirectory hdestination
  have hremoved := FileSystem.result_removeDirectory hdestination hlast.not_prefix
  have hmade := result_makeDirectories_of_removed hlast hdestination hroot
  obtain ⟨hresult, hstate⟩ := run_deleteDestination hsource hexists hapart
  have hdeleted : ((deleteDestination source destination).run files).1.result = .ok () := by
    rw [hresult]
    exact result_change_eq_ok_iff.mpr hremoved
  have hok : ((prepareDestination source destination).run files).1.result = .ok () := by
    rw [run_prepareDestination_of_pathExists hexists, Stage.result_bind, hdeleted, hstate]
    exact result_change_eq_ok_iff.mpr hmade
  have hforeseen : Foreseen source destination files :=
    ⟨hlast.ne_nil, FileSystem.eq_place_of_mem_way hlast.not_prefix, .inl hexists⟩
  exact ⟨hok, (hforeseen.emptied hsource hok).1⟩

/-- Preparing a destination that is new. -/
theorem prepareDestination_of_free (htree : files.IsTree)
    (hsource : files.isDirectory source = true)
    (hfree : files.entryAt? (files.place destination) = none)
    (h : ((prepareDestination source destination).run files).1.result = .ok ()) :
    Emptied destination files ((prepareDestination source destination).run files).2 := by
  have hforeseen : Foreseen source destination files :=
    ⟨hlast.ne_nil, FileSystem.eq_place_of_mem_way hlast.not_prefix,
      .inr (htree.apart_of_free hsource hfree)⟩
  exact (hforeseen.emptied hsource h).1

end Prepare

end StaticSite
