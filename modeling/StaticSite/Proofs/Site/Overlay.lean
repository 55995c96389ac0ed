import StaticSite.Proofs.Site.Prepare

/-!
# The written pages

Writing pages to a directory lays their files over what is there (`overlaid`): each path has the
page that was written to it last, in folders that are made where they are missing. Two pages cannot
be in each other's way, for then one of them could not have been written.
-/

namespace StaticSite

open FileSystem (AddsOnly)

/-- The last one of the pages that have given names in their paths. -/
def lastWith (pages : List RenderedPage) (rel : Location) : Option RenderedPage :=
  (pages.filter fun page => Path.names page.path = rel).getLast?

/-- What a place in the destination holds when pages were written over what was there. -/
def overlaid (pages : List RenderedPage) (laid : Location → Option FileEntry) (rel : Location) :
    Option FileEntry :=
  match lastWith pages rel with
  | some page => some (.file (Text.encode page.content))
  | none =>
    if ∃ page ∈ pages, rel <+: Path.names page.path then some .directory else laid rel

theorem overlaid_congr {pages : List RenderedPage} {laid other : Location → Option FileEntry}
    {rel : Location} (h : laid rel = other rel) :
    overlaid pages laid rel = overlaid pages other rel := by
  unfold overlaid
  rw [h]

/-- A page is written when all folders on its way are there, whatever folders are made before. -/
theorem exists_of_writePage {destination : Path} {page : RenderedPage} {files : FileSystem}
    (hok : ((writePage destination page).run files).1.result = .ok ()) :
    ∃ made : FileSystem,
      AddsOnly (fun _ => True) (· ∈ files.way (Path.join destination page.path)) (fun _ => False)
          files made ∧
        made.writeFile (Path.join destination page.path) (Text.encode page.content) =
          .ok ((writePage destination page).run files).2 := by
  unfold writePage at hok ⊢
  dsimp only at hok ⊢
  cases hparent : Path.parent? (Path.join destination page.path) with
  | none =>
    rw [hparent] at hok
    exact ⟨files, .refl files, eq_ok_of_change hok⟩
  | some folder =>
    have hleads : Path.LeadsTo folder (Path.join destination page.path) :=
      Path.leadsTo_of_mem_parents (List.mem_of_mem_head? hparent)
    rw [hparent] at hok
    dsimp only at hok ⊢
    simp only [Stage.outcome_bind, Outcome.result_andThen_eq_ok_iff] at hok
    obtain ⟨_, hmade, hwritten⟩ := hok
    rw [state_change] at hwritten
    refine ⟨(files.makeDirectories folder).1, ?_, ?_⟩
    · refine (FileSystem.addsOnly_makeDirectories files folder).mono (fun _ h => h) ?_ fun _ _ => id
      exact fun l _ hl => FileSystem.way_subset_of_leadsTo hleads hl
    · rw [Stage.state_bind, hmade]
      dsimp only
      rw [state_change _ _ _ files]
      exact eq_ok_of_change hwritten

/-- A written page is in its place, folders lead to it, and nothing else is changed. -/
theorem of_writePage {destination : Path} {page : RenderedPage} {files : FileSystem}
    (hok : ((writePage destination page).run files).1.result = .ok ()) :
    AddsOnly (fun _ => True) (· ∈ files.way (Path.join destination page.path))
        (· = files.place (Path.join destination page.path)) files
        ((writePage destination page).run files).2 ∧
      ∀ l, ((writePage destination page).run files).2.entryAt? l =
        if l = files.place (Path.join destination page.path) then
          some (.file (Text.encode page.content))
        else if l ∈ files.way (Path.join destination page.path) then some .directory
        else files.entryAt? l := by
  obtain ⟨made, hmade, hwrite⟩ := exists_of_writePage hok
  obtain ⟨hpassed, -, -⟩ := FileSystem.of_writeFile hwrite
  have hentries := FileSystem.entryAt?_writeFile hwrite
  have hwritten : AddsOnly (fun _ => True) (fun _ => False) (· = _) made
      ((writePage destination page).run files).2 := FileSystem.addsOnly_writeFile hwrite
  rw [FileSystem.place_eq hmade.workingDirectory_eq] at hentries hwritten
  rw [FileSystem.passed_eq hmade.workingDirectory_eq] at hpassed
  refine ⟨.trans _ _ _ (hmade.mono (fun _ h => h) (fun _ _ h => h) fun _ _ => False.elim)
    (hwritten.mono (fun _ h => h) (fun _ _ => False.elim) fun _ _ h => h), fun l => ?_⟩
  rw [hentries]
  by_cases hlast : l = files.place (Path.join destination page.path)
  · rw [if_pos hlast, if_pos hlast]
  · rw [if_neg hlast, if_neg hlast]
    by_cases hl : l ∈ files.way (Path.join destination page.path)
    · rw [if_pos hl]
      exact hpassed l ((FileSystem.mem_way.mp hl).resolve_right hlast)
    · rw [if_neg hl]
      exact (hmade.added l trivial).eq_of_not hl id

section Write

variable {destination : Path} {files : FileSystem} {page : RenderedPage}
  (hready : ∀ m ∈ files.way destination, files.entryAt? m = some .directory)
  (hdown : Path.IsDownward page.path)
  (hok : ((writePage destination page).run files).1.result = .ok ())

include hready hdown hok

theorem keepsOutside_writePage :
    KeepsOutside destination files ((writePage destination page).run files).2 := by
  obtain ⟨hadds, hentries⟩ := of_writePage hok
  refine ⟨hadds.workingDirectory_eq, hadds.root_eq, fun m hm => ?_, fun l hl => ?_⟩
  · exact (hadds.added m trivial).directory (hready m hm)
  · rw [hentries, if_neg]
    · by_cases hway : l ∈ files.way (Path.join destination page.path)
      · rw [if_pos hway]
        rcases (FileSystem.mem_way_join_of_isDownward hdown).mp hway with hpassed | ⟨before, -, rfl⟩
        · exact (hready l (FileSystem.mem_way.mpr (.inl hpassed))).symm
        · exact absurd (List.prefix_append _ _) hl
      · rw [if_neg hway]
    · rintro rfl
      rw [FileSystem.place_join_of_isDownward hdown] at hl
      exact hl (List.prefix_append _ _)

theorem entryAt?_writePage (rel : Location) :
    ((writePage destination page).run files).2.entryAt? (files.place destination ++ rel) =
      if rel = Path.names page.path then some (.file (Text.encode page.content))
      else if rel <+: Path.names page.path then some .directory
      else files.entryAt? (files.place destination ++ rel) := by
  obtain ⟨-, hentries⟩ := of_writePage hok
  have hplace : files.place destination ++ rel = files.place (Path.join destination page.path) ↔
      rel = Path.names page.path := by
    rw [FileSystem.place_join_of_isDownward hdown, List.append_right_inj]
  have hway : files.place destination ++ rel ∈ files.way (Path.join destination page.path) ↔
      files.place destination ++ rel ∈ files.passed destination ∨
        rel <+: Path.names page.path := by
    rw [FileSystem.mem_way_join_of_isDownward hdown]
    simp only [List.append_right_inj, exists_eq_right']
  simp only [hentries, hplace]
  by_cases hrel : rel = Path.names page.path
  · rw [if_pos hrel, if_pos hrel]
  · rw [if_neg hrel, if_neg hrel]
    by_cases hbegins : rel <+: Path.names page.path
    · rw [if_pos (hway.mpr (.inr hbegins)), if_pos hbegins]
    · rw [if_neg hbegins]
      by_cases hpassed : files.place destination ++ rel ∈ files.passed destination
      · rw [if_pos (hway.mpr (.inl hpassed)), hready _ (FileSystem.mem_way.mpr (.inl hpassed))]
      · rw [if_neg fun h => (hway.mp h).elim hpassed hbegins]

end Write

/-! ## All pages -/

theorem lastWith_cons (page : RenderedPage) (pages : List RenderedPage) (rel : Location) :
    lastWith (page :: pages) rel =
      (lastWith pages rel).or (if Path.names page.path = rel then some page else none) := by
  unfold lastWith
  rw [List.filter_cons]
  by_cases hrel : Path.names page.path = rel
  · rw [if_pos (by simpa using hrel), if_pos hrel, List.getLast?_cons]
    cases (pages.filter fun page => Path.names page.path = rel).getLast? <;> rfl
  · rw [if_neg (by simpa using hrel), if_neg hrel, Option.or_none]

/-- One page, and then the other ones. -/
theorem overlaid_cons {page : RenderedPage} {pages : List RenderedPage}
    {laid : Location → Option FileEntry} {rel : Location}
    (hfree : rel = Path.names page.path → lastWith pages rel = none →
      ¬ ∃ other ∈ pages, rel <+: Path.names other.path) :
    overlaid (page :: pages) laid rel =
      overlaid pages (fun rel =>
        if rel = Path.names page.path then some (.file (Text.encode page.content))
        else if rel <+: Path.names page.path then some .directory
        else laid rel) rel := by
  unfold overlaid
  rw [lastWith_cons]
  cases hlater : lastWith pages rel with
  | some last => rfl
  | none =>
    rw [Option.none_or]
    by_cases hrel : rel = Path.names page.path
    · rw [if_pos hrel.symm]
      dsimp only
      rw [if_neg (hfree hrel hlater), if_pos hrel]
    · have hcons : (∃ other ∈ page :: pages, rel <+: Path.names other.path) ↔
          rel <+: Path.names page.path ∨ ∃ other ∈ pages, rel <+: Path.names other.path := by simp
      rw [if_neg (Ne.symm hrel)]
      dsimp only
      rw [if_neg hrel]
      by_cases hbegins : rel <+: Path.names page.path
      · rw [if_pos (hcons.mpr (.inl hbegins)), if_pos hbegins, ite_self]
      · rw [if_neg hbegins]
        simp only [hcons, hbegins, false_or]

/-- Pages that could all be written lie over what was there. -/
theorem writeEach_of_ok {destination : Path} {pages : List RenderedPage} {files : FileSystem}
    (hready : ∀ m ∈ files.way destination, files.entryAt? m = some .directory)
    (hdown : ∀ page ∈ pages, Path.IsDownward page.path)
    (hok : ((writeEach destination pages).run files).1.result = .ok ()) :
    KeepsOutside destination files ((writeEach destination pages).run files).2 ∧
      ∀ rel, ((writeEach destination pages).run files).2.entryAt? (files.place destination ++ rel) =
        overlaid pages (fun rel => files.entryAt? (files.place destination ++ rel)) rel := by
  induction pages generalizing files with
  | nil =>
    refine ⟨⟨rfl, rfl, hready, fun _ _ => rfl⟩, fun rel => ?_⟩
    unfold overlaid
    rw [if_neg (by simp)]
    rfl
  | cons page pages ih =>
    obtain ⟨hpage, hlater⟩ := List.forall_mem_cons.mp hdown
    rw [writeEach] at hok ⊢
    simp only [Stage.outcome_bind, Outcome.result_andThen_eq_ok_iff] at hok
    obtain ⟨_, hfirst, hrest⟩ := hok
    have hkeeps := keepsOutside_writePage hready hpage hfirst
    have hentries := entryAt?_writePage hready hpage hfirst
    rw [Stage.state_bind, hfirst]
    dsimp only
    set written := ((writePage destination page).run files).2 with hwritten
    have hplace : written.place destination = files.place destination :=
      FileSystem.place_eq hkeeps.workingDirectory_eq destination
    have hway : written.way destination = files.way destination :=
      FileSystem.way_eq hkeeps.workingDirectory_eq destination
    obtain ⟨hkeepsRest, hrestEntries⟩ := ih (hway ▸ hkeeps.directory) hlater hrest
    refine ⟨hkeeps.trans hkeepsRest, fun rel => ?_⟩
    have hall := hrestEntries rel
    rw [hplace] at hall
    rw [hall, overlaid_cons]
    · simp only [hentries]
    · -- the page is there as a file, so no later one can have needed a folder in its place
      intro hrel hlast hfolder
      have hfile := hentries rel
      rw [if_pos hrel] at hfile
      have hadds : AddsPages destination (pages.map RenderedPage.path) written
          ((writeEach destination pages).run written).2 :=
        addsPages_writeEach (fun page hmem => List.mem_map_of_mem hmem) written
      refine (hadds.added (files.place destination ++ rel) trivial).ne_directory hfile ?_
      rw [hall, overlaid, hlast]
      exact if_pos hfolder

end StaticSite
