import StaticSite.Proofs.Site.Prepare

/-!
# The guard of the destination

Preparing a destination deletes what is there, so the source must not be in it. The guard asks for
the destination by its path, before the folders on the way are made, and deleting it goes along the
same path once more. This is enough for a path that never goes up. One that does can lead through a
folder that is still missing, so that the guard finds nothing, or through the content of the
destination, so that it is not empty in the end; `guarded_iff` says when it is safe all the same.
-/

namespace StaticSite

open FileSystem (AddsOnly)

variable {source destination : Path} {files prepared : FileSystem}

/-- A prepared destination: an empty directory that is neither the source nor above it. -/
structure IsReady (source destination : Path) (files prepared : FileSystem) : Prop where
  /-- The path leads to a directory. -/
  isDirectory : prepared.isDirectory destination = true
  /-- Nothing is in it. -/
  empty : ∀ place, prepared.canonical destination = .ok place →
    ∀ rel, rel ≠ [] → prepared.entryAt? (place ++ rel) = none
  /-- The source is neither at its place nor below. -/
  apart : ∀ place sourcePlace, prepared.canonical destination = .ok place →
    files.canonical source = .ok sourcePlace → ¬ place <+: sourcePlace

/-- Preparing the destination ends with it ready, and it is refused, with nothing changed, if the
directory that making it would lead to is the source or above it. -/
structure Guarded (source destination : Path) (files : FileSystem) : Prop where
  /-- The destination is ready if preparing it succeeds. -/
  ready : ((prepareDestination source destination).run files).1.result = .ok () →
    IsReady source destination files ((prepareDestination source destination).run files).2
  /-- A destination that would hold the source is refused. -/
  refused : ∀ made place sourcePlace, files.makeDirectories destination = (made, .ok ()) →
    made.canonical destination = .ok place → files.canonical source = .ok sourcePlace →
      place <+: sourcePlace →
        (∃ problem p cause, ((prepareDestination source destination).run files).1.result =
          .error (.directory problem p cause)) ∧
        ((prepareDestination source destination).run files).2 = files

/-! ## Foreseen destinations -/

section Prepared

variable (hsource : files.isDirectory source = true)
  (hok : ((prepareDestination source destination).run files).1.result = .ok ())

include hsource hok

/-- A foreseen destination is ready when it is prepared. -/
theorem Foreseen.isReady (h : Foreseen source destination files) :
    IsReady source destination files ((prepareDestination source destination).run files).2 := by
  obtain ⟨hemptied, hapart⟩ := h.emptied hsource hok
  have hplace : ∀ place, ((prepareDestination source destination).run files).2.canonical
      destination = .ok place → place = files.place destination := by
    intro place hcanonical
    rw [FileSystem.place_of_canonical hcanonical,
      FileSystem.place_eq hemptied.workingDirectory_eq]
  refine ⟨hemptied.isDirectory, fun place hcanonical rel hrel => ?_,
    fun place sourcePlace hcanonical hfound => ?_⟩
  · rw [hplace place hcanonical, hemptied.entryAt?_eq, if_neg, if_pos (List.prefix_append _ _)]
    intro hway
    exact hrel (by simpa using h.way _ hway (List.prefix_append _ _))
  · rw [hplace place hcanonical, FileSystem.place_of_canonical hfound]
    exact hapart

/-- Only a foreseen destination is ready when it is prepared. -/
theorem IsReady.foreseen
    (h : IsReady source destination files ((prepareDestination source destination).run files).2) :
    Foreseen source destination files := by
  have hne : destination ≠ [] := (FileSystem.isDirectory_iff.mp h.isDirectory).1.ne_nil
  obtain ⟨cleared, hprepared⟩ := exists_preparedFrom hsource hok hne
  have hcanonical : ((prepareDestination source destination).run files).2.canonical destination =
      .ok (files.place destination) := by
    rw [FileSystem.canonical_of_isDirectory hprepared.isDirectory,
      FileSystem.place_eq hprepared.workingDirectory_eq]
  have hempty := h.empty _ hcanonical
  refine ⟨hne, ?_, ?_⟩
  · rintro m hm ⟨rel, rfl⟩
    by_cases hrel : rel = []
    · rw [hrel, List.append_nil]
    · -- a place on the way is a directory, and there is none in the destination
      have hnone := hempty rel hrel
      rw [hprepared.entryAt?_eq, if_pos hm] at hnone
      cases hnone
  · rcases hprepared.cleared with ⟨hunseen, rfl⟩ | ⟨hapart, hremoved⟩
    · refine .inr ⟨h.apart _ _ hcanonical (FileSystem.canonical_of_isDirectory hsource),
        fun rel hrel => ?_⟩
      have hnone := hempty rel hrel
      rw [hprepared.entryAt?_eq] at hnone
      split at hnone
      · cases hnone
      · exact hnone
    · have hdeleted := FileSystem.of_removeDirectory_eq_ok (congrArg Prod.snd hremoved)
      exact .inl (FileSystem.pathExists_of_isDirectory hdeleted.1)

end Prepared

/-- A destination that would hold the source is refused if it is foreseen. -/
theorem refused_of_foreseen (hsource : files.isDirectory source = true)
    (h : ((prepareDestination source destination).run files).1.result = .ok () →
      Foreseen source destination files) {made : FileSystem} {place sourcePlace : Location}
    (hmade : files.makeDirectories destination = (made, .ok ()))
    (hplace : made.canonical destination = .ok place)
    (hfound : files.canonical source = .ok sourcePlace) (hholds : place <+: sourcePlace) :
    ((prepareDestination source destination).run files).1.result =
        .error (.directory .destinationHoldsSource place.path none) ∧
      ((prepareDestination source destination).run files).2 = files := by
  have hadds : AddsOnly (fun _ => True) (· ∈ _) (fun _ => False) files
      (files.makeDirectories destination).1 :=
    FileSystem.addsOnly_makeDirectories files destination
  have hworking : made.workingDirectory = files.workingDirectory := by
    rw [← hadds.workingDirectory_eq, hmade]
  rw [FileSystem.place_of_canonical hplace, FileSystem.place_eq hworking] at hholds ⊢
  rw [FileSystem.place_of_canonical hfound] at hholds
  by_cases hexists : files.pathExists destination = true
  · exact prepareDestination_of_holds hsource hexists hholds
  · have hok : ((prepareDestination source destination).run files).1.result = .ok () := by
      rw [run_prepareDestination_of_not_pathExists hexists]
      exact result_change_eq_ok_iff.mpr (congrArg Prod.snd hmade)
    exact absurd hholds ((h hok).seen.resolve_left hexists).1

/-! ## Paths that never go up -/

/-- A path that never goes up comes to its place from above. -/
theorem FileSystem.prefix_place_of_mem_way {p : Path} (hup : ['.', '.'] ∉ Path.parts p)
    {m : Location} (hm : m ∈ files.way p) : m <+: files.place p := by
  have hnames : ∀ part ∈ Path.parts p, part ≠ ['.'] → Path.IsName part := by
    intro part hpart hdot
    refine Path.isName_of_mem_parts hpart hdot ?_
    rintro rfl
    exact hup hpart
  obtain ⟨before, hbefore, rfl⟩ := (Location.mem_through_of_isName hnames (files.start p)).mp hm
  rw [FileSystem.place, Location.along_of_isName hnames]
  exact (List.prefix_append_right_inj _).mpr hbefore

/-- If a path that never goes up leads to nothing but directories can be made along it, then nothing
is at its place. -/
theorem FileSystem.entryAt?_place_of_not_pathExists {p : Path} (htree : files.IsTree)
    (hup : ['.', '.'] ∉ Path.parts p) (hne : p ≠ []) (hunseen : ¬ files.pathExists p = true)
    (hmade : (files.makeDirectories p).2 = .ok ()) : files.entryAt? (files.place p) = none := by
  obtain ⟨husable, hmadeWay⟩ :=
    FileSystem.isDirectory_iff.mp (FileSystem.isDirectory_makeDirectories hmade hne)
  have hadds : AddsOnly (fun _ => True) (· ∈ _) (fun _ => False) files
      (files.makeDirectories p).1 := FileSystem.addsOnly_makeDirectories files p
  cases hplace : files.entryAt? (files.place p) with
  | none => rfl
  | some e =>
    cases e with
    | file content =>
      -- a file stays one, and a directory was made
      refine absurd (hmadeWay _ ?_) ((hadds.added _ trivial).ne_directory hplace)
      rw [← FileSystem.place_eq hadds.workingDirectory_eq]
      exact FileSystem.place_mem_way _ p
    | directory =>
      -- what leads to a directory are directories, so the path leads there
      refine absurd (FileSystem.pathExists_of_isDirectory ?_) hunseen
      refine FileSystem.isDirectory_iff.mpr ⟨husable, fun m hm => ?_⟩
      by_cases hlast : m = files.place p
      · rw [hlast, hplace]
      · refine htree.directory_above (FileSystem.prefix_place_of_mem_way hup hm) hlast ?_
        rw [hplace]
        nofun

/-- A path that never goes up shows what there is to delete. -/
theorem foreseen_of_notMem (htree : files.IsTree) (hsource : files.isDirectory source = true)
    (hne : destination ≠ []) (hup : ['.', '.'] ∉ Path.parts destination)
    (hok : ((prepareDestination source destination).run files).1.result = .ok ()) :
    Foreseen source destination files := by
  refine ⟨hne, fun m hm hbelow => ?_, ?_⟩
  · exact (FileSystem.prefix_place_of_mem_way hup hm).eq_of_length_le hbelow.length_le
  · by_cases hexists : files.pathExists destination = true
    · exact .inl hexists
    · rw [run_prepareDestination_of_not_pathExists hexists] at hok
      have hmade := result_change_eq_ok_iff.mp hok
      exact .inr (htree.apart_of_free hsource
        (FileSystem.entryAt?_place_of_not_pathExists htree hup hne hexists hmade))

/-! ## When the guard holds -/

/-- The guard of a destination holds if and only if it is foreseen whenever it can be prepared; and
it holds for every path that never goes up. -/
theorem guarded_iff (source destination : Path) (files : FileSystem) (htree : files.IsTree)
    (hsource : files.isDirectory source = true) :
    (Guarded source destination files ↔
      (((prepareDestination source destination).run files).1.result = .ok () →
        Foreseen source destination files)) ∧
      (destination ≠ [] → ['.', '.'] ∉ Path.parts destination →
        Guarded source destination files) := by
  have hguarded : (((prepareDestination source destination).run files).1.result = .ok () →
      Foreseen source destination files) → Guarded source destination files := by
    refine fun h => ⟨fun hok => (h hok).isReady hsource hok, ?_⟩
    intro made place sourcePlace hmade hplace hfound hholds
    obtain ⟨hresult, hstate⟩ := refused_of_foreseen hsource h hmade hplace hfound hholds
    exact ⟨⟨_, _, _, hresult⟩, hstate⟩
  refine ⟨⟨fun h hok => (h.ready hok).foreseen hsource hok, hguarded⟩, fun hne hup => ?_⟩
  exact hguarded fun hok => foreseen_of_notMem htree hsource hne hup hok

/-- An old destination beside the source, by a path that does not go up and by one that does. -/
theorem guarded_beside_source :
    let files := ((FileSystem.empty.put ["s".toList] .directory).put ["out".toList] .directory).put
      ["out".toList, "old".toList] (.file (Text.encode "0".toList))
    files.IsTree ∧ files.isDirectory "s".toList = true ∧
      Guarded "s".toList "./out".toList files ∧ Guarded "s".toList "s/../out".toList files := by
  intro files
  have htree : files.IsTree := by decide +kernel
  have hsource : files.isDirectory "s".toList = true := by decide +kernel
  refine ⟨htree, hsource, ?_, ?_⟩
  · exact (guarded_iff _ _ files htree hsource).2 (by decide) (by decide)
  · refine (guarded_iff _ _ files htree hsource).1.mpr fun _ => ?_
    exact ⟨by decide, by decide, .inl (by decide +kernel)⟩

/-- The path leads to the source through a folder that is missing, so nothing is found there at
first. Then the folder is made, and the source is the destination. -/
theorem not_guarded_through_missing_folder :
    let files := FileSystem.empty.put ["s".toList] .directory
    files.IsTree ∧ files.isDirectory "s".toList = true ∧
      ((prepareDestination "s".toList "x/../s".toList).run files).1.result = .ok () ∧
      ¬ Guarded "s".toList "x/../s".toList files := by
  intro files
  have hsource : files.isDirectory "s".toList = true := by decide +kernel
  have hok : ((prepareDestination "s".toList "x/../s".toList).run files).1.result = .ok () :=
    Site.eq_ok_of_toOption (by decide +kernel)
  refine ⟨by decide +kernel, hsource, hok, fun h => ?_⟩
  have hready := h.ready hok
  have hplace : ((prepareDestination "s".toList "x/../s".toList).run files).2.canonical
      "x/../s".toList = .ok ["s".toList] := by
    rw [FileSystem.canonical_of_isDirectory hready.isDirectory]
    decide +kernel
  have hsourcePlace : files.canonical "s".toList = .ok ["s".toList] := by
    rw [FileSystem.canonical_of_isDirectory hsource]
    decide
  exact hready.apart _ _ hplace hsourcePlace List.prefix_rfl

end StaticSite
