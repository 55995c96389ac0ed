import StaticSite.Proofs.Site.Static

/-!
# Separate directories

If the source and the destination of a site are separate directories, what is in the source stays
as it is while the destination changes (`Separate.entryAt?_source`). So a compilation lays the
static files of the source (`Separate.laid_of_ok`), and lays them as before when it is started
again, whatever has come to the destination in between (`Separate.layStatic_again`).
-/

namespace StaticSite

/-- The source and the destination of a site are separate directories, or the destination is new.
Neither path depends on what is made or deleted on the other one. -/
structure Separate (site : Site) (files : FileSystem) : Prop where
  /-- The files form a tree. -/
  isTree : files.IsTree
  /-- The source is a directory. -/
  source : files.isDirectory site.source = true
  /-- The destination is a directory, or nothing stands at its place. -/
  destination : files.entryAt? (files.place site.destination) = none ∨
    files.isDirectory site.destination = true
  /-- The source is not in the destination. -/
  not_below : ¬ files.place site.destination <+: files.place site.source
  /-- The destination is not in the source. -/
  not_above : ¬ files.place site.source <+: files.place site.destination
  /-- The path of the destination comes to it at the end only. -/
  arrivesLast : files.ArrivesLast site.destination
  /-- The path of the source goes through nothing that is in the destination. -/
  source_way : ∀ m ∈ files.way site.source, files.place site.destination <+: m →
    m = files.place site.destination
  /-- The path of the destination goes through folders of the source only if they are there. -/
  destination_way : ∀ m ∈ files.way site.destination, files.place site.source <+: m →
    files.entryAt? m = some .directory
  /-- The static files are in the source. -/
  static : (files.place site.source).StaysBelow site.layout.static

/-- The files once the destination is prepared. -/
def Site.prepared (site : Site) (files : FileSystem) : FileSystem :=
  ((prepareDestination site.source site.destination).run files).2

/-- What the static folder of a site holds. -/
def Site.static? (site : Site) (files : FileSystem) : Location → Option FileEntry :=
  files.held? (site.layout.staticFolder site.source)

theorem Emptied.keepsOutside {destination : Path} {files prepared : FileSystem}
    (h : Emptied destination files prepared) : KeepsOutside destination prepared prepared :=
  ⟨rfl, rfl, h.directory_of_mem_way, fun _ _ => rfl⟩

section LayStatic

variable {site : Site} {files : FileSystem}

/-- The static files are copied once the destination is prepared. -/
theorem result_layStatic_of_prepared
    (hok : ((prepareDestination site.source site.destination).run files).1.result = .ok ()) :
    ((layStatic site).run files).1.result =
        ((copyStaticFiles (site.layout.staticFolder site.source) site.destination).run
          (site.prepared files)).1.result ∧
      ((layStatic site).run files).2 =
        ((copyStaticFiles (site.layout.staticFolder site.source) site.destination).run
          (site.prepared files)).2 := by
  unfold layStatic
  rw [Stage.result_bind, Stage.state_bind, hok]
  exact ⟨rfl, rfl⟩

theorem prepare_of_layStatic {n : Nat} (hok : ((layStatic site).run files).1.result = .ok n) :
    ((prepareDestination site.source site.destination).run files).1.result = .ok () := by
  unfold layStatic at hok
  simp only [Stage.outcome_bind, Outcome.result_andThen_eq_ok_iff] at hok
  obtain ⟨_, hprepare, -⟩ := hok
  exact hprepare

end LayStatic

namespace Separate

variable {site : Site} {files prepared later : FileSystem} (h : Separate site files)

include h

theorem not_prefix_of_source {l : Location} (hl : files.place site.source <+: l) :
    ¬ files.place site.destination <+: l := by
  intro hbelow
  rcases List.prefix_or_prefix_of_prefix hbelow hl with hsource | hdestination
  · exact h.not_below hsource
  · exact h.not_above hdestination

theorem emptied
    (hok : ((prepareDestination site.source site.destination).run files).1.result = .ok ()) :
    Emptied site.destination files (site.prepared files) := by
  rcases h.destination with hfree | hdirectory
  · exact prepareDestination_of_free h.arrivesLast h.isTree h.source hfree hok
  · exact (prepareDestination_of_isDirectory h.arrivesLast h.source hdirectory h.not_below).2

/-! ## The source -/

section Source

variable (hprepared : Emptied site.destination files prepared)
  (hkeeps : KeepsOutside site.destination prepared later)

include hprepared hkeeps

theorem entryAt?_source {l : Location} (hl : files.place site.source <+: l) :
    later.entryAt? l = files.entryAt? l := by
  have houtside := h.not_prefix_of_source hl
  have hkept : later.entryAt? l = prepared.entryAt? l := by
    refine hkeeps.outside l ?_
    rwa [FileSystem.place_eq hprepared.workingDirectory_eq]
  rw [hkept, hprepared.entryAt?_of_ne_none houtside fun hway => h.destination_way l hway hl]

theorem directory_of_mem_way_source {m : Location} (hm : m ∈ files.way site.source) :
    later.entryAt? m = some .directory := by
  by_cases hbelow : files.place site.destination <+: m
  · obtain rfl := h.source_way m hm hbelow
    refine hkeeps.directory _ ?_
    rw [FileSystem.way_eq hprepared.workingDirectory_eq]
    exact FileSystem.place_mem_way files site.destination
  · have hold := (FileSystem.isDirectory_iff.mp h.source).2 m hm
    have hkept : later.entryAt? m = prepared.entryAt? m := by
      refine hkeeps.outside m ?_
      rwa [FileSystem.place_eq hprepared.workingDirectory_eq]
    rw [hkept, hprepared.entryAt?_of_ne_none hbelow fun _ => hold, hold]

/-- Preparing the destination again leads to the same files. -/
theorem prepare_again :
    ((prepareDestination site.source site.destination).run later).1.result = .ok () ∧
      site.prepared later = prepared := by
  have hworking : later.workingDirectory = files.workingDirectory :=
    hkeeps.workingDirectory_eq.trans hprepared.workingDirectory_eq
  have hplace := FileSystem.place_eq hworking site.destination
  have hlast : later.ArrivesLast site.destination := by
    refine ⟨h.arrivesLast.ne_nil, ?_⟩
    rw [FileSystem.passed_eq hworking, hplace]
    exact h.arrivesLast.not_prefix
  have hsource : later.isDirectory site.source = true := by
    refine FileSystem.isDirectory_iff.mpr ⟨(FileSystem.isDirectory_iff.mp h.source).1, ?_⟩
    rw [FileSystem.way_eq hworking]
    exact fun m hm => h.directory_of_mem_way_source hprepared hkeeps hm
  have hdestination : later.isDirectory site.destination = true := by
    refine FileSystem.isDirectory_iff.mpr
      ⟨(FileSystem.isDirectory_iff.mp hprepared.isDirectory).1, ?_⟩
    rw [FileSystem.way_eq hkeeps.workingDirectory_eq]
    exact hkeeps.directory
  have hapart : ¬ later.place site.destination <+: later.place site.source := by
    rw [hplace, FileSystem.place_eq hworking]
    exact h.not_below
  obtain ⟨hok, hagain⟩ := prepareDestination_of_isDirectory hlast hsource hdestination hapart
  refine ⟨hok, hprepared.unique hagain hworking (hkeeps.root_eq.trans hprepared.root_eq) ?_⟩
  intro l hway houtside
  have hkept : later.entryAt? l = prepared.entryAt? l := by
    refine hkeeps.outside l ?_
    rwa [FileSystem.place_eq hprepared.workingDirectory_eq]
  rw [hkept, hprepared.entryAt?_eq, if_neg hway, if_neg houtside]

end Source

/-! ## The static files -/

theorem prefix_place_static :
    files.place site.source <+: files.place (site.layout.staticFolder site.source) := by
  unfold Layout.staticFolder
  rw [FileSystem.place_join h.static.isAbsolute_eq]
  exact h.static.prefix_through _ (List.mem_append_right _ (List.mem_singleton_self _))

theorem place_static_ne_nil : files.place (site.layout.staticFolder site.source) ≠ [] := by
  intro hroot
  have hbegins := h.prefix_place_static
  rw [hroot] at hbegins
  exact h.not_above ((List.prefix_nil.mp hbegins) ▸ List.nil_prefix)

/-- The path of the static folder goes through the source. -/
theorem mem_way_static {m : Location}
    (hm : m ∈ files.way (site.layout.staticFolder site.source)) :
    m ∈ files.way site.source ∨ files.place site.source <+: m := by
  unfold Layout.staticFolder at hm
  rw [FileSystem.mem_way, FileSystem.passed_join h.static.isAbsolute_eq,
    FileSystem.place_join h.static.isAbsolute_eq, List.mem_append, or_assoc] at hm
  rcases hm with hpassed | hlater
  · exact .inl (FileSystem.mem_way.mpr (.inl hpassed))
  · refine .inr (h.static.prefix_through m ?_)
    rwa [List.mem_append, List.mem_singleton]

section Static

variable (hprepared : Emptied site.destination files prepared)

include hprepared

theorem isDirectory_static :
    prepared.isDirectory (site.layout.staticFolder site.source) =
      files.isDirectory (site.layout.staticFolder site.source) := by
  have hway : ∀ m ∈ files.way (site.layout.staticFolder site.source),
      prepared.entryAt? m = files.entryAt? m := by
    intro m hm
    rcases h.mem_way_static hm with hsource | hbelow
    · rw [h.directory_of_mem_way_source hprepared hprepared.keepsOutside hsource,
        (FileSystem.isDirectory_iff.mp h.source).2 m hsource]
    · exact h.entryAt?_source hprepared hprepared.keepsOutside hbelow
  rw [Bool.eq_iff_iff, FileSystem.isDirectory_iff, FileSystem.isDirectory_iff,
    FileSystem.way_eq hprepared.workingDirectory_eq]
  refine and_congr_right fun _ => forall₂_congr fun m hm => ?_
  rw [hway m hm]

theorem static?_eq : site.static? prepared = site.static? files := by
  funext rel
  unfold Site.static? FileSystem.held?
  rw [h.isDirectory_static hprepared, FileSystem.place_eq hprepared.workingDirectory_eq,
    h.entryAt?_source hprepared hprepared.keepsOutside]
  exact h.prefix_place_static.trans (List.prefix_append _ rel)

theorem countFiles_eq :
    prepared.countFiles (site.layout.staticFolder site.source) =
      files.countFiles (site.layout.staticFolder site.source) := by
  have hentries :
      prepared.entriesFrom (files.place (site.layout.staticFolder site.source)) =
        files.entriesFrom (files.place (site.layout.staticFolder site.source)) := by
    refine FileSystem.entriesFrom_congr h.place_static_ne_nil fun m hm => ?_
    exact h.entryAt?_source hprepared hprepared.keepsOutside (h.prefix_place_static.trans hm)
  unfold FileSystem.countFiles
  rw [h.isDirectory_static hprepared, FileSystem.place_eq hprepared.workingDirectory_eq, hentries]

end Static

/-- Folders lead to each static file. -/
theorem static?_above {rel before : Location} (hrel : site.static? files rel ≠ none)
    (hbefore : before <+: rel) (hne : before ≠ rel) :
    site.static? files before = some .directory := by
  unfold Site.static? FileSystem.held? at hrel ⊢
  by_cases hdirectory : files.isDirectory (site.layout.staticFolder site.source) = true
  · rw [if_pos hdirectory] at hrel ⊢
    refine h.isTree.directory_above ((List.prefix_append_right_inj _).mpr hbefore) ?_ hrel
    exact fun heq => hne (List.append_cancel_left heq)
  · rw [if_neg hdirectory] at hrel
    exact absurd rfl hrel

/-! ## What is laid -/

/-- The destination holds the static files, and nothing else is changed. -/
theorem laid_of_ok {n : Nat} (hok : ((layStatic site).run files).1.result = .ok n) :
    let laid := ((layStatic site).run files).2
    KeepsOutside site.destination (site.prepared files) laid ∧
      (∀ rel, rel ≠ [] →
        laid.entryAt? (files.place site.destination ++ rel) = site.static? files rel) ∧
      n = files.countFiles (site.layout.staticFolder site.source) := by
  have hprepare := prepare_of_layStatic hok
  have hprepared := h.emptied hprepare
  obtain ⟨hresult, hstate⟩ := result_layStatic_of_prepared hprepare
  rw [hresult] at hok
  have hnamed : (site.prepared files).WellNamed :=
    wellNamed_prepareDestination h.isTree.toWellNamed site.source
  have hapart : ∀ rel, ¬ (site.prepared files).place site.destination <+:
      (site.prepared files).place (site.layout.staticFolder site.source) ++ rel := by
    intro rel
    rw [FileSystem.place_eq hprepared.workingDirectory_eq,
      FileSystem.place_eq hprepared.workingDirectory_eq]
    exact h.not_prefix_of_source (h.prefix_place_static.trans (List.prefix_append _ rel))
  have hstatic := h.static?_eq hprepared
  have habove : ∀ rel before, site.static? (site.prepared files) rel ≠ none → before <+: rel →
      before ≠ rel → site.static? (site.prepared files) before = some .directory := by
    rw [hstatic]
    exact fun rel before => h.static?_above
  obtain ⟨hkeeps, hheld, hcount⟩ :=
    copyStaticFiles_of_emptied hprepared h.arrivesLast hnamed habove hapart hok
  rw [FileSystem.place_eq hprepared.workingDirectory_eq] at hheld
  rw [h.countFiles_eq hprepared] at hcount
  rw [hstate]
  refine ⟨hkeeps, fun rel hrel => (hheld rel hrel).trans ?_, hcount⟩
  exact congrFun hstatic rel

/-- Whatever has come to the destination, the static files are laid again as they were. -/
theorem layStatic_again {n : Nat} (hok : ((layStatic site).run files).1.result = .ok n)
    (hkeeps : KeepsOutside site.destination (site.prepared files) later) :
    ((layStatic site).run later).1.result = .ok n ∧
      ((layStatic site).run later).2 = ((layStatic site).run files).2 := by
  have hprepare := prepare_of_layStatic hok
  obtain ⟨hprepareAgain, hsame⟩ := h.prepare_again (h.emptied hprepare) hkeeps
  obtain ⟨hresult, hstate⟩ := result_layStatic_of_prepared hprepare
  obtain ⟨hresultAgain, hstateAgain⟩ := result_layStatic_of_prepared hprepareAgain
  rw [hresultAgain, hstateAgain, hsame, ← hresult, ← hstate]
  exact ⟨hok, rfl⟩

end Separate

end StaticSite
