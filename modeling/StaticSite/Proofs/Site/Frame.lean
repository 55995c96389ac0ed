import StaticSite.Proofs.Site.Compile
import StaticSite.Proofs.Site.Copy

/-!
# What a compilation leaves alone

A compilation changes nothing outside of its destination, but that it makes missing folders on the
way there, and that pages whose paths lead out of the destination are written where they lead to
(`compile_changes_only`). The file system has no links, so the place that the destination's path
leads to is the one that is deleted and made.
-/

namespace StaticSite

open FileSystem (Added AddsOnly WellNamed)

/-! ## What pages may touch -/

/-- The places on the way from the destination along given paths. -/
def OnPaths (files : FileSystem) (destination : Path) (paths : List Path) (l : Location) : Prop :=
  ∃ p ∈ paths, l ∈ files.way (Path.join destination p)

/-- The places that given paths lead to from the destination. -/
def IsTarget (files : FileSystem) (destination : Path) (paths : List Path) (l : Location) : Prop :=
  ∃ p ∈ paths, l = files.place (Path.join destination p)

/-- Folders are made only on the way of the paths, and files are written only at the paths. -/
def AddsPages (destination : Path) (paths : List Path) (files changed : FileSystem) : Prop :=
  AddsOnly (fun _ => True) (OnPaths files destination paths) (IsTarget files destination paths)
    files changed

/-- Outside of the destination, folders are made only on the way to it or to one of the paths, and
files are written only at the paths. -/
def Frame (destination : Path) (paths : List Path) (files changed : FileSystem) : Prop :=
  AddsOnly (¬ files.place destination <+: ·)
    (fun l => l ∈ files.way destination ∨ OnPaths files destination paths l)
    (IsTarget files destination paths) files changed

section Relations

variable {destination : Path} {paths : List Path} {files changed : FileSystem}

theorem AddsPages.refl (files : FileSystem) : AddsPages destination paths files files :=
  AddsOnly.refl files

theorem AddsPages.trans (files changed last : FileSystem)
    (h : AddsPages destination paths files changed)
    (h' : AddsPages destination paths changed last) : AddsPages destination paths files last := by
  have hworking := h.workingDirectory_eq
  refine AddsOnly.trans files changed last h ?_
  unfold AddsPages OnPaths IsTarget at h'
  unfold OnPaths IsTarget
  simpa only [FileSystem.place_eq hworking, FileSystem.way_eq hworking] using h'

theorem Frame.refl (files : FileSystem) : Frame destination paths files files :=
  AddsOnly.refl files

theorem Frame.trans (files changed last : FileSystem) (h : Frame destination paths files changed)
    (h' : Frame destination paths changed last) : Frame destination paths files last := by
  have hworking := h.workingDirectory_eq
  refine AddsOnly.trans files changed last h ?_
  unfold Frame OnPaths IsTarget at h'
  unfold OnPaths IsTarget
  simpa only [FileSystem.place_eq hworking, FileSystem.way_eq hworking] using h'

theorem AddsPages.frame (h : AddsPages destination paths files changed) :
    Frame destination paths files changed :=
  AddsOnly.mono h (fun _ _ => trivial) (fun _ _ => .inr) (fun _ _ => id)

theorem Frame.of_makeDirectories {p : Path}
    (h : ∀ l ∈ files.way p, files.place destination <+: l ∨ l ∈ files.way destination) :
    Frame destination paths files (files.makeDirectories p).1 := by
  refine (FileSystem.addsOnly_makeDirectories files p).mono (fun _ h => h) ?_ fun _ _ h => h
  intro l houtside hl
  exact .inl ((h l hl).resolve_left houtside)

theorem Frame.of_writeFile {p : Path} {content : ByteArray}
    (hwrite : files.writeFile p content = .ok changed)
    (h : files.place destination <+: files.place p) : Frame destination paths files changed := by
  refine (FileSystem.addsOnly_writeFile hwrite).mono (fun _ h => h) (fun _ _ h => h) ?_
  rintro l houtside rfl
  exact absurd h houtside

end Relations

/-! ## Steps -/

section Steps

variable {destination : Path} {paths : List Path} {files : FileSystem}

/-- Preparing the destination is deleting it, unless it is the root, and making it anew, as far as
either comes about. -/
theorem relates_prepareDestination_of {R : FileSystem → FileSystem → Prop}
    (hrefl : ∀ files, R files files) (htrans : ∀ a b c, R a b → R b c → R a c)
    (hremove : ∀ files : FileSystem, files.place destination ≠ [] →
      R files (files.removeDirectory destination).1)
    (hmake : ∀ files : FileSystem, R files (files.makeDirectories destination).1) (source : Path) :
    Stage.Relates R (prepareDestination source destination) := by
  have hmade : Stage.Relates R (change .destinationNotMade destination fun files =>
      files.makeDirectories destination) := relates_change hmake
  have hdelete : Stage.Relates R (deleteDestination source destination) := by
    intro files
    show R files (deleteDestination source destination files).2
    unfold deleteDestination
    split
    · exact hrefl files
    · exact hrefl files
    · next sourcePlace place hsource hplace =>
      split
      · exact hrefl files
      · next hapart =>
        have hroot : files.place destination ≠ [] := by
          rw [← FileSystem.place_of_canonical hplace]
          rintro rfl
          exact hapart (by cases sourcePlace <;> rfl)
        have hremoved := hremove files hroot
        show R files (Stage.run (Stage.note _ >>= fun _ => change _ _ _) files).2
        rw [Stage.state_bind, Stage.run_note]
        exact state_change _ _ _ files ▸ hremoved
  intro files
  unfold prepareDestination
  rw [Stage.run_get_bind]
  dsimp only
  split
  · exact Stage.Relates.bind htrans hdelete (fun _ => hmade) files
  · exact hmade files

theorem relates_prepareDestination (source : Path) :
    Stage.Relates (Frame destination paths) (prepareDestination source destination) := by
  refine relates_prepareDestination_of Frame.refl Frame.trans (fun files hroot => ?_)
    (fun files => ?_) source
  · obtain ⟨hworking, hrootEntry, hentries⟩ := FileSystem.of_removeDirectory files destination
    refine ⟨hworking, hrootEntry hroot, fun l houtside => ?_⟩
    rw [(hentries l).resolve_right fun h => houtside h.1]
    exact .same _
  · exact .of_makeDirectories fun _ hl => .inr hl

/-- Preparing the destination brings no names that a path could not have. -/
theorem wellNamed_prepareDestination (h : files.WellNamed) (source : Path) :
    ((prepareDestination source destination).run files).2.WellNamed := by
  have hkeeps : Stage.Relates (fun files changed => files.WellNamed → changed.WellNamed)
      (prepareDestination source destination) := by
    refine relates_prepareDestination_of (fun _ => id) (fun _ _ _ h h' ha => h' (h ha))
      (fun files _ hnamed => ?_) (fun files hnamed => ?_) source
    · obtain ⟨hworking, -, hentries⟩ := FileSystem.of_removeDirectory files destination
      refine hnamed.of_forall_way hworking fun l hl => .inl ?_
      rw [← (hentries l).resolve_right fun h => hl h.2]
      exact hl
    · exact hnamed.makeDirectories destination
  exact hkeeps files h

/-- A downward path leads from the destination to places below it. -/
theorem prefix_of_mem_way_join {p : Path} (h : Path.IsDownward p) {l : Location}
    (hl : l ∈ files.way (Path.join destination p)) :
    files.place destination <+: l ∨ l ∈ files.way destination := by
  rcases (FileSystem.mem_way_join_of_isDownward h).mp hl with hpassed | ⟨before, -, rfl⟩
  · exact .inr (FileSystem.mem_way.mpr (.inl hpassed))
  · exact .inl (List.prefix_append _ _)

/-- Nothing but the destination is changed, and no names come that a path could not have. -/
def KeepsNamed (destination : Path) (paths : List Path) (files changed : FileSystem) : Prop :=
  files.WellNamed → changed.WellNamed ∧ Frame destination paths files changed

theorem KeepsNamed.refl (files : FileSystem) : KeepsNamed destination paths files files :=
  fun hnamed => ⟨hnamed, .refl files⟩

theorem KeepsNamed.trans (files changed last : FileSystem)
    (h : KeepsNamed destination paths files changed)
    (h' : KeepsNamed destination paths changed last) : KeepsNamed destination paths files last := by
  intro hnamed
  obtain ⟨hchanged, hframe⟩ := h hnamed
  obtain ⟨hlast, hframe'⟩ := h' hchanged
  exact ⟨hlast, .trans _ _ _ hframe hframe'⟩

theorem keepsNamed_copyEntry (folder : Path) {place : Location} {entry : Location × FileEntry}
    (hnames : ∀ name ∈ entry.1.drop place.length, Path.IsName name) :
    Stage.Relates (KeepsNamed destination paths) (copyEntry folder destination place entry) := by
  have hdown := Path.isDownward_join_names hnames
  refine relates_copyEntry KeepsNamed.refl KeepsNamed.trans (fun files hnamed => ⟨?_, ?_⟩)
    fun files changed content hwrite hnamed => ⟨hnamed.writeFile hwrite, ?_⟩
  · exact hnamed.makeDirectories _
  · exact .of_makeDirectories fun l hl => prefix_of_mem_way_join hdown hl
  · refine .of_writeFile hwrite ?_
    rw [FileSystem.place_join_of_isDownward hdown]
    exact List.prefix_append _ _

/-- Each level of the walk looks for the names in the files as they are by then, so these have to
stay such that a path can have them. -/
theorem keepsNamed_copyWithin (folder : Path) (place : Location) {levels : Nat}
    {entry : Location × FileEntry} (hnames : ∀ name ∈ entry.1.drop place.length, Path.IsName name) :
    Stage.Relates (KeepsNamed destination paths)
      (copyWithin folder destination place levels entry) := by
  induction levels generalizing entry with
  | zero => exact keepsNamed_copyEntry folder hnames
  | succ levels ih =>
    refine .bind KeepsNamed.trans (keepsNamed_copyEntry folder hnames) fun first => ?_
    split
    · exact .lift KeepsNamed.refl _
    · intro files
      rw [Stage.run_get_bind]
      intro hnamed
      have hchildren : Stage.Relates (KeepsNamed destination paths)
          (copyEach (copyWithin folder destination place levels) (files.entriesIn entry.1)) := by
        refine relates_copyEach KeepsNamed.refl KeepsNamed.trans fun child hchild => ih ?_
        intro name hname
        exact hnamed.isName_of_mem_entriesIn hchild name (List.mem_of_mem_drop hname)
      exact hchildren.bind KeepsNamed.trans (fun rest => .lift KeepsNamed.refl _) files hnamed

theorem frame_copyStaticFiles (folder : Path) (h : files.WellNamed) :
    Frame destination paths files ((copyStaticFiles folder destination).run files).2 := by
  unfold copyStaticFiles
  rw [Stage.run_get_bind]
  split
  · next place hfind =>
    refine (keepsNamed_copyWithin folder place (fun name hname => ?_) files h).2
    rw [List.drop_length] at hname
    exact absurd hname List.not_mem_nil
  · exact Frame.refl files

/-- Writing a page adds folders on the way of its path, and the page. -/
theorem addsPages_writePage {page : RenderedPage} (hpage : page.path ∈ paths) :
    Stage.Relates (AddsPages destination paths) (writePage destination page) := by
  have hwrite : Stage.Relates (AddsPages destination paths)
      (change .pageNotWritten (Path.join destination page.path) fun files =>
        files.orUnchanged (files.writeFile (Path.join destination page.path)
          (Text.encode page.content))) := by
    refine relates_change fun files => ?_
    cases hfile :
      files.writeFile (Path.join destination page.path) (Text.encode page.content) with
    | error cause => exact AddsPages.refl files
    | ok changed =>
      refine (FileSystem.addsOnly_writeFile hfile).mono (fun _ h => h) (fun _ _ h => h) ?_
      exact fun _ _ heq => ⟨page.path, hpage, heq⟩
  unfold writePage
  dsimp only
  cases hparent : Path.parent? (Path.join destination page.path) with
  | none => exact hwrite
  | some folder =>
    refine .bind AddsPages.trans (relates_change fun files => ?_) fun _ => hwrite
    have hleads : Path.LeadsTo folder (Path.join destination page.path) :=
      Path.leadsTo_of_mem_parents (List.mem_of_mem_head? hparent)
    refine (FileSystem.addsOnly_makeDirectories files folder).mono (fun _ h => h) ?_ fun _ _ h => h
    exact fun l _ hl => ⟨page.path, hpage, FileSystem.way_subset_of_leadsTo hleads hl⟩

theorem addsPages_writeEach {pages : List RenderedPage}
    (hpages : ∀ page ∈ pages, page.path ∈ paths) :
    Stage.Relates (AddsPages destination paths) (writeEach destination pages) := by
  induction pages with
  | nil => exact .lift AddsPages.refl _
  | cons page pages ih =>
    obtain ⟨hpage, hlater⟩ := List.forall_mem_cons.mp hpages
    exact .bind AddsPages.trans (addsPages_writePage hpage) fun _ => ih hlater

end Steps

/-! ## A compilation -/

/-- What a compilation does to the files before it comes to the pages; it answers with the number
of static files. -/
def layStatic (site : Site) : Stage FileSystem Nat := do
  prepareDestination site.source site.destination
  copyStaticFiles (site.layout.staticFolder site.source) site.destination

theorem frame_layStatic {files : FileSystem} (h : files.WellNamed) (site : Site)
    (paths : List Path) :
    Frame site.destination paths files ((layStatic site).run files).2 := by
  have hprepared : Frame site.destination paths files
      ((prepareDestination site.source site.destination).run files).2 :=
    relates_prepareDestination site.source files
  unfold layStatic
  rw [Stage.state_bind]
  cases ((prepareDestination site.source site.destination).run files).1.result with
  | error e => exact hprepared
  | ok done =>
    refine .trans _ _ _ hprepared (frame_copyStaticFiles _ ?_)
    exact wellNamed_prepareDestination h site.source

namespace Site

theorem run_onFiles {α : Type} (x : Stage FileSystem α) (w : Workspace) :
    (onFiles x).run w = ((x.run w.files).1, { w with files := (x.run w.files).2 }) := rfl

theorem onFiles_bind {α β : Type} (x : Stage FileSystem α) (f : α → Stage FileSystem β) :
    onFiles (x >>= f) = onFiles x >>= fun a => onFiles (f a) := by
  funext w
  show Stage.onPart _ _ (Stage.andThen x f) w = Stage.andThen (onFiles x) (fun a => onFiles (f a)) w
  unfold onFiles Stage.andThen Stage.onPart
  dsimp only
  rcases x w.files with ⟨⟨log, result⟩, files⟩
  cases result <;> rfl

/-- The static files are laid, and then the pages are looked for. -/
theorem beforePages_eq (site : Site) :
    beforePages site =
      Stage.note .started >>= fun _ => onFiles (layStatic site) >>= fun staticFiles =>
        pages >>= fun found => pure (found.keys, staticFiles) := by
  simp only [beforePages, layStatic, onFiles_bind, bind_assoc]

variable {w : Workspace}

/-- Looking for the pages leaves the files as they were laid. -/
theorem files_beforePages (w : Workspace) :
    ((beforePages w.site).run w).2.files = ((layStatic w.site).run w.files).2 := by
  rw [beforePages_eq]
  simp only [Stage.state_bind, Stage.run_note, Outcome.result_note, run_onFiles]
  cases ((layStatic w.site).run w.files).1.result with
  | error e => rfl
  | ok staticFiles =>
    dsimp only
    rw [pages, Kept.run_ask]
    split <;> rfl

/-- The workspace in which the pages are looked for. -/
def laid (w : Workspace) : Workspace :=
  { w with files := ((layStatic w.site).run w.files).2 }

theorem beforePages_of_ok {n : Nat} (hlaid : ((layStatic w.site).run w.files).1.result = .ok n) :
    ((beforePages w.site).run w).1.result =
        (keptPages.now (laid w)).result.map (fun found => (found.keys, n)) ∧
      ((beforePages w.site).run w).2 = keptPages.look (laid w) := by
  rw [beforePages_eq]
  simp only [Stage.result_bind, Stage.state_bind, Stage.run_note, Outcome.result_note, run_onFiles,
    hlaid, pages, Kept.run_ask]
  refine ⟨rfl, ?_⟩
  split <;> rfl

/-- The names that a compilation goes through are those of the pages, which are known from then
on. -/
theorem of_beforePages {names : List Text} {staticFiles : Nat}
    (h : ((beforePages w.site).run w).1.result = .ok (names, staticFiles)) :
    ∃ found : PageSet, names = found.keys ∧
      ((layStatic w.site).run w.files).1.result = .ok staticFiles ∧
      (keptPages.now (laid w)).result = .ok found ∧
      ((beforePages w.site).run w).2.site = { w.site with pages? := some found } := by
  have hsteps := h
  rw [beforePages_eq] at hsteps
  simp only [Stage.outcome_bind, Stage.run_note, run_onFiles,
    Outcome.result_andThen_eq_ok_iff] at hsteps
  obtain ⟨-, -, n, hlaid, -⟩ := hsteps
  obtain ⟨hresult, hstate⟩ := beforePages_of_ok hlaid
  rw [hresult] at h
  cases hnow : (keptPages.now (laid w)).result with
  | error e =>
    rw [hnow] at h
    cases h
  | ok found =>
    rw [hnow] at h
    cases h
    refine ⟨found, rfl, hlaid, rfl, ?_⟩
    rw [hstate]
    show keptPages.put (keptPages.now (laid w)).result.toOption w.site = _
    rw [hnow]
    rfl

theorem Kept.now_of_known {α : Type} {k : Kept α} {a : α} (h : k.known? w.site = some a) :
    k.now w = .ok a := by
  unfold now
  rw [h]
  rfl

/-- A page is written to the path that its record has. -/
theorem exists_page_of_render {name : Text} {rendered : RenderedPage} {found : PageSet}
    (hknown : w.site.pages? = some found) (h : ((render name).run w).1.result = .ok rendered) :
    ∃ page, found.find? name = some page ∧ rendered.path = page.outputPath := by
  have hnow : keptPages.now w = .ok found := Kept.now_of_known hknown
  rw [run_render, Outcome.result_andThen_eq_ok_iff] at h
  obtain ⟨⟨pages, globals⟩, hloaded, hrendered⟩ := h
  have hpages : pages = found := by
    unfold loadNow at hloaded
    rw [hnow] at hloaded
    simp only [Outcome.ok_andThen, Outcome.result_andThen_eq_ok_iff] at hloaded
    obtain ⟨_, _, heq⟩ := hloaded
    cases heq
    rfl
  subst hpages
  unfold renderedWith at hrendered
  cases hfind : pages.find? name with
  | none =>
    rw [hfind] at hrendered
    cases hrendered
  | some page =>
    rw [hfind] at hrendered
    refine ⟨page, rfl, ?_⟩
    simp only [renderPage, Stage.outcome_bind, Outcome.result_andThen_eq_ok_iff] at hrendered
    obtain ⟨_, _, _, _, heq⟩ := hrendered
    cases heq
    rfl

theorem site_writeNamed (destination : Path) (name : Text) (w : Workspace) :
    ((writeNamed destination name).run w).2.site = ((render name).run w).2.site := by
  unfold writeNamed
  simp only [Stage.state_bind, Stage.run_note, Outcome.result_note]
  cases ((render name).run w).1.result <;> rfl

theorem pages?_writeNamed {found : PageSet} (hknown : w.site.pages? = some found)
    (destination : Path) (name : Text) :
    ((writeNamed destination name).run w).2.site.pages? = some found := by
  rw [site_writeNamed]
  have hafter := (Call.render name).pages?_after w
  have hnow : keptPages.now w = .ok found := Kept.now_of_known hknown
  rw [hnow] at hafter
  exact hafter

theorem exists_page_of_mem_handedPages {destination : Path} {names : List Text}
    {p : Text × RenderedPage} {found : PageSet} (hknown : w.site.pages? = some found)
    (h : p ∈ handedPages destination names w) :
    ∃ page, found.find? p.1 = some page ∧ p.2.path = page.outputPath := by
  induction names generalizing w with
  | nil => cases h
  | cons name names ih =>
    rw [handedPages] at h
    cases hrender : ((render name).run w).1.result with
    | error e =>
      rw [hrender] at h
      cases h
    | ok rendered =>
      rw [hrender] at h
      rcases List.mem_cons.mp h with rfl | hlater
      · exact exists_page_of_render hknown hrender
      · cases hresult : ((writeNamed destination name).run w).1.result with
        | error e =>
          rw [hresult] at hlater
          cases hlater
        | ok done =>
          rw [hresult] at hlater
          exact ih (pages?_writeNamed hknown destination name) hlater

/-- The pages that a compilation writes are pages of the site, each with its path. -/
theorem exists_page_of_mem_writtenPages {p : Text × RenderedPage} (h : p ∈ writtenPages w) :
    ∃ found page, ((beforePages w.site).run w).2.site.pages? = some found ∧
      found.find? p.1 = some page ∧ p.2.path = page.outputPath := by
  unfold writtenPages at h
  split at h
  · cases h
  · next names staticFiles hfound =>
    obtain ⟨found, -, -, -, hsite⟩ := of_beforePages hfound
    have hknown : ((beforePages w.site).run w).2.site.pages? = some found := by rw [hsite]
    obtain ⟨page, hfind, hpath⟩ := exists_page_of_mem_handedPages hknown h
    exact ⟨found, page, hknown, hfind, hpath⟩

/-- The paths of the pages that a compilation writes. -/
def writtenPaths (w : Workspace) : List Path :=
  (writtenPages w).map fun p => p.2.path

theorem frame_compile (h : w.files.WellNamed) :
    Frame w.site.destination (writtenPaths w) w.files (compile.run w).2.files := by
  have hlaid := frame_layStatic h w.site (writtenPaths w)
  rw [← files_beforePages] at hlaid
  rw [files_compile]
  refine .trans _ _ _ hlaid (addsPages_writeEach (fun page hpage => ?_) _).frame
  obtain ⟨p, hp, rfl⟩ := List.mem_map.mp hpage
  exact List.mem_map_of_mem hp

/-- A page whose path stays below the destination touches nothing outside of it. -/
theorem mem_way_of_staysBelow {files : FileSystem} {destination p : Path} {l : Location}
    (hp : Location.StaysBelow (files.place destination) p)
    (hl : l ∈ files.way (Path.join destination p)) :
    l ∈ files.way destination ∨ files.place destination <+: l := by
  rw [FileSystem.mem_way, FileSystem.passed_join hp.isAbsolute_eq,
    FileSystem.place_join hp.isAbsolute_eq, List.mem_append, or_assoc] at hl
  rcases hl with hpassed | hlater
  · exact .inl (FileSystem.mem_way.mpr (.inl hpassed))
  · refine .inr (hp.prefix_through l ?_)
    rwa [List.mem_append, List.mem_singleton]

/-- In a file system without links, a compilation, whether it succeeds or not, changes nothing
outside of its destination, but that it makes missing folders on the way there, and that pages whose
paths lead out of the destination are written where they lead to, with the missing folders on the
way. If no path does so, nothing but the way to the destination is changed. The paths are those in
the records of the pages. -/
theorem compile_changes_only (w : Workspace) (h : w.files.WellNamed) :
    let place := w.files.place w.site.destination
    let changed := (compile.run w).2.files
    Frame w.site.destination (writtenPaths w) w.files changed ∧
      ((∀ p ∈ writtenPaths w, place.StaysBelow p) → ∀ l, ¬ place <+: l →
        changed.entryAt? l = w.files.entryAt? l ∨
          l ∈ w.files.way w.site.destination ∧ w.files.entryAt? l = none ∧
            changed.entryAt? l = some .directory) ∧
      ∀ p ∈ writtenPages w, ∃ found page,
        ((beforePages w.site).run w).2.site.pages? = some found ∧
          found.find? p.1 = some page ∧ p.2.path = page.outputPath := by
  intro place changed
  have hframe := frame_compile h
  refine ⟨hframe, fun hpaths l houtside => ?_, fun p => exists_page_of_mem_writtenPages⟩
  have hadded := hframe.added l houtside
  have hway : l ∈ w.files.way w.site.destination ∨
      OnPaths w.files w.site.destination (writtenPaths w) l →
        l ∈ w.files.way w.site.destination := by
    rintro (hway | ⟨p, hp, hway⟩)
    · exact hway
    · exact (mem_way_of_staysBelow (hpaths p hp) hway).resolve_right houtside
  have htarget : ¬ IsTarget w.files w.site.destination (writtenPaths w) l := by
    rintro ⟨p, hp, rfl⟩
    have hstays := hpaths p hp
    refine houtside ?_
    rw [FileSystem.place_join hstays.isAbsolute_eq]
    exact hstays.prefix_through _ (List.mem_append_right _ (List.mem_singleton_self _))
  rcases hadded.eq_or_of_not htarget with hsame | ⟨hfolder, hold, hnew⟩
  · exact .inl hsame
  · exact .inr ⟨hway hfolder, hold, hnew⟩

/-- One page goes to a folder of the destination, and a file beside the destination is left alone. -/
theorem compile_changes_only_beside_note :
    let page : Page := { template := "t".toList, url := "a/b.html".toList }
    let note : FileEntry := .file (Text.encode "n".toList)
    let w : Workspace :=
      { files := (FileSystem.empty.put ["s".toList] .directory).put ["n".toList] note
        site :=
          { source := "s".toList, destination := "out".toList, production := false, layout := {},
            convert := id, expansions := 0, globals? := some ∅
            templates := ⟨"s/templates".toList, "html".toList, .ofList [("t".toList, "x".toList)]⟩
            pages? := some (.ofList [("a".toList, page)]) } }
    w.files.WellNamed ∧ (compile.run w).2.files.entryAt? ["n".toList] = some note := by
  intro page note w
  have hsource : (FileSystem.empty.put ["s".toList] .directory).IsTree :=
    FileSystem.IsTree.empty.put_root (by decide) (by decide) _
  have hnamed : w.files.WellNamed :=
    (hsource.put_root (by decide) (by decide) note).toWellNamed
  have hpaths : writtenPaths w = ["a/b.html".toList] := by decide +kernel
  obtain ⟨-, hbeside, -⟩ := compile_changes_only w hnamed
  have hstays : ∀ p ∈ writtenPaths w, Location.StaysBelow (w.files.place w.site.destination) p := by
    rw [hpaths]
    exact List.forall_mem_singleton.mpr (Location.staysBelow_of_isDownward (by decide) _)
  have hnote : w.files.entryAt? ["n".toList] = some note := by decide
  refine ⟨hnamed, ?_⟩
  rcases hbeside hstays ["n".toList] (by decide) with hsame | ⟨-, hnone, -⟩
  · exact hsame.trans hnote
  · cases hnote.symm.trans hnone

/-- The page file gives a page a relative path with two dots, which leads to a file beside the
destination. -/
theorem compile_changes_beside_destination :
    let w : Workspace :=
      { files := (FileSystem.empty.put ["s".toList] .directory).put
          ["s".toList, "pages.spec".toList]
          (.file (Text.encode "[a]\ntemplate: t\nurl: ../a.html".toList))
        site :=
          { source := "s".toList, destination := "out".toList, production := false, layout := {},
            convert := id, expansions := 0, globals? := some ∅
            templates :=
              ⟨"s/templates".toList, "html".toList, .ofList [("t".toList, "x".toList)]⟩ } }
    w.files.WellNamed ∧ writtenPaths w = ["../a.html".toList] ∧
      ¬ w.files.place w.site.destination <+: ["a.html".toList] ∧
      ["a.html".toList] ∉ w.files.way w.site.destination ∧
      (compile.run w).1.result = .ok ⟨1, 0⟩ ∧
      w.files.entryAt? ["a.html".toList] = none ∧
      (compile.run w).2.files.entryAt? ["a.html".toList] =
        some (.file (Text.encode "x".toList)) := by
  intro w
  have hsource : (FileSystem.empty.put ["s".toList] .directory).IsTree :=
    FileSystem.IsTree.empty.put_root (by decide) (by decide) _
  have hfolder : (FileSystem.empty.put ["s".toList] .directory).entryAt? ["s".toList] =
      some .directory := by decide
  have hnamed : w.files.WellNamed := (hsource.put hfolder (by decide) (by decide) _).toWellNamed
  refine ⟨hnamed, by decide +kernel, by decide, by decide, ?_, by decide +kernel, by decide +kernel⟩
  exact eq_ok_of_toOption (by decide +kernel)

end Site

end StaticSite
