import StaticSite.Proofs.Site.Again
import StaticSite.Proofs.Site.Overlay
import StaticSite.Proofs.Site.Separate

/-!
# What a compilation leaves in its destination

The static files, and over them the pages that it has written, and nothing else
(`compile_output`). Pages with one path are written in the order of their names, so the last one
stays.
-/

namespace StaticSite

/-- A destination holds the static files with pages over them, and nothing else. -/
structure Holds (pages : List (Text × RenderedPage)) (static? : Location → Option FileEntry)
    (held? : Location → Option FileEntry) : Prop where
  /-- The destination is a directory. -/
  directory : held? [] = some .directory
  /-- The pages lie over the static files. -/
  overlaid : ∀ rel, rel ≠ [] → held? rel = overlaid (pages.map Prod.snd) static? rel
  /-- A page is there if no page with a greater name has its path. -/
  page : ∀ p ∈ pages,
    (∀ other ∈ pages, p.1 < other.1 → Path.names other.2.path ≠ Path.names p.2.path) →
      held? (Path.names p.2.path) = some (.file (Text.encode p.2.content))

/-- Of pages with ascending names, the one with the greatest name is the last one with its path. -/
theorem lastWith_of_greatest {pages : List (Text × RenderedPage)}
    (hascending : pages.Pairwise fun p q => p.1 < q.1) {p : Text × RenderedPage} (hp : p ∈ pages)
    (hgreatest : ∀ other ∈ pages, p.1 < other.1 →
      Path.names other.2.path ≠ Path.names p.2.path) :
    lastWith (pages.map Prod.snd) (Path.names p.2.path) = some p.2 := by
  obtain ⟨before, after, rfl⟩ := List.append_of_mem hp
  have hlater : ∀ other ∈ after, p.1 < other.1 :=
    (List.pairwise_cons.mp (List.pairwise_append.mp hascending).2.1).1
  have hnone : (after.map Prod.snd).filter
      (fun page => Path.names page.path = Path.names p.2.path) = [] := by
    refine List.filter_eq_nil_iff.mpr fun page hpage => ?_
    obtain ⟨other, hother, rfl⟩ := List.mem_map.mp hpage
    have hmem : other ∈ before ++ p :: after :=
      List.mem_append_right _ (List.mem_cons_of_mem _ hother)
    simpa using hgreatest other hmem (hlater other hother)
  unfold lastWith
  rw [List.map_append, List.map_cons, List.filter_append, List.filter_cons, if_pos (by simp), hnone]
  exact List.getLast?_concat

namespace Site

variable {w : Workspace}

theorem pairwise_keys (pages : PageSet) : pages.keys.Pairwise (· < ·) := by
  unfold Dictionary.keys
  rw [List.pairwise_map]
  exact pages.ordered

theorem writtenPages_of_beforePages {names : List Text} {n : Nat}
    (h : ((beforePages w.site).run w).1.result = .ok (names, n)) :
    writtenPages w = handedPages w.site.destination names ((beforePages w.site).run w).2 := by
  unfold writtenPages
  rw [h]

/-- The pages of the site are known once they were looked for. -/
theorem exists_pages?_compile {names : List Text} {n : Nat}
    (hbefore : ((beforePages w.site).run w).1.result = .ok (names, n)) :
    ∃ pages, names = pages.keys ∧ (compile.run w).2.site.pages? = some pages := by
  obtain ⟨pages, hnames, -, -, hsite⟩ := of_beforePages hbefore
  refine ⟨pages, hnames, ?_⟩
  rw [state_compile hbefore]
  refine (knows_writePages _ _ _).pages pages ?_
  rw [hsite]

/-- Each page that is written is one of the site, and the compiled site renders it to what was
written. -/
theorem render_of_mem_writtenPages {p : Text × RenderedPage} (hp : p ∈ writtenPages w) :
    ((render p.1).run (compile.run w).2).1.result = .ok p.2 ∧
      ∃ pages page, (compile.run w).2.site.pages? = some pages ∧ pages.find? p.1 = some page ∧
        p.2.path = page.outputPath := by
  cases hbefore : ((beforePages w.site).run w).1.result with
  | error e =>
    unfold writtenPages at hp
    rw [hbefore] at hp
    cases hp
  | ok found =>
    obtain ⟨names, n⟩ := found
    obtain ⟨pages, -, hknown⟩ := exists_pages?_compile hbefore
    rw [writtenPages_of_beforePages hbefore] at hp
    rw [state_compile hbefore] at hknown ⊢
    have hrender := render_of_mem_handedPages (.refl _) hp
    obtain ⟨page, hfind, hpath⟩ := exists_page_of_render hknown hrender
    exact ⟨hrender, pages, page, hknown, hfind, hpath⟩

section Output

variable (h : Separate w.site w.files) (hpaths : ∀ p ∈ writtenPaths w, Path.IsDownward p)

include h hpaths

/-- When the pages of some names were all written, the destination holds them. -/
theorem holds_of_writePages {names : List Text} {n : Nat}
    (hlaid : ((layStatic w.site).run w.files).1.result = .ok n)
    (hascending : names.Pairwise (· < ·))
    (hwritten : ((writePages w.site.destination names).run
      ((beforePages w.site).run w).2).1.result = .ok ())
    (hpages : writtenPages w =
      handedPages w.site.destination names ((beforePages w.site).run w).2) :
    KeepsOutside w.site.destination (w.site.prepared w.files) (compile.run w).2.files ∧
      Holds (writtenPages w) (w.site.static? w.files) fun rel =>
        (compile.run w).2.files.entryAt? (w.files.place w.site.destination ++ rel) := by
  obtain ⟨hkeepsLaid, hstatic, -⟩ := h.laid_of_ok hlaid
  have hprepared := h.emptied (prepare_of_layStatic hlaid)
  have hfiles := files_compile w
  have hall := writeEach_of_writePages hwritten
  have hnames := map_fst_handedPages hwritten
  rw [← hpages] at hall hnames
  rw [files_beforePages] at hfiles hall
  set laid := ((layStatic w.site).run w.files).2
  have hworking : laid.workingDirectory = w.files.workingDirectory :=
    hkeepsLaid.workingDirectory_eq.trans hprepared.workingDirectory_eq
  have hready : ∀ m ∈ laid.way w.site.destination, laid.entryAt? m = some .directory := by
    rw [FileSystem.way_eq hkeepsLaid.workingDirectory_eq]
    exact hkeepsLaid.directory
  have hdown : ∀ page ∈ (writtenPages w).map Prod.snd, Path.IsDownward page.path := by
    intro page hpage
    obtain ⟨p, hp, rfl⟩ := List.mem_map.mp hpage
    exact hpaths _ (List.mem_map_of_mem hp)
  obtain ⟨hkeeps, hentries⟩ := writeEach_of_ok hready hdown hall
  rw [← hfiles] at hkeeps hentries
  rw [FileSystem.place_eq hworking] at hentries
  refine ⟨hkeepsLaid.trans hkeeps, ?_, fun rel hrel => ?_, fun p hp hgreatest => ?_⟩
  · show (compile.run w).2.files.entryAt? (w.files.place w.site.destination ++ []) = _
    rw [List.append_nil, ← FileSystem.place_eq hworking]
    exact hkeeps.directory _ (FileSystem.place_mem_way laid _)
  · show (compile.run w).2.files.entryAt? (w.files.place w.site.destination ++ rel) = _
    rw [hentries]
    exact overlaid_congr (hstatic rel hrel)
  · show (compile.run w).2.files.entryAt? (w.files.place w.site.destination ++ _) = _
    rw [← hnames, List.pairwise_map] at hascending
    rw [hentries, StaticSite.overlaid, lastWith_of_greatest hascending hp hgreatest]

theorem output_of_ok {summary : BuildSummary} (hok : (compile.run w).1.result = .ok summary) :
    ∃ pages, (compile.run w).2.site.pages? = some pages ∧
      (writtenPages w).map Prod.fst = pages.keys ∧
      (Holds (writtenPages w) (w.site.static? w.files) fun rel =>
        (compile.run w).2.files.entryAt? (w.files.place w.site.destination ++ rel)) ∧
      summary = ⟨pages.keys.length,
        w.files.countFiles (w.site.layout.staticFolder w.site.source)⟩ := by
  obtain ⟨found, n, hlaid, -, hbefore, hwritten, rfl⟩ := of_compile hok
  obtain ⟨pages, hkeys, hknown⟩ := exists_pages?_compile hbefore
  have hpages := writtenPages_of_beforePages hbefore
  obtain ⟨-, hholds⟩ := holds_of_writePages h hpaths hlaid (pairwise_keys found) hwritten hpages
  obtain ⟨-, -, rfl⟩ := h.laid_of_ok hlaid
  refine ⟨pages, hknown, ?_, hholds, by rw [hkeys]⟩
  rw [hpages]
  exact (map_fst_handedPages hwritten).trans hkeys

/-- The static files are laid anew as they were, so all comes to the same. -/
theorem compile_again {summary : BuildSummary} (hok : (compile.run w).1.result = .ok summary)
    {again : Workspace} (hfiles : again.files = (compile.run w).2.files)
    (hsite : again.site = w.site ∨ Knows (compile.run w).2.site again.site) :
    (compile.run again).1.result = .ok summary ∧
      (compile.run again).2.files = (compile.run w).2.files := by
  obtain ⟨pages, n, hlaid, -, hbefore, hwritten, -⟩ := of_compile hok
  obtain ⟨hkeeps, -⟩ := holds_of_writePages h hpaths hlaid (pairwise_keys pages) hwritten
    (writtenPages_of_beforePages hbefore)
  obtain ⟨hlaidAgain, hsame⟩ := h.layStatic_again hlaid hkeeps
  rw [← hfiles] at hlaidAgain hsame
  rcases hsite with hsite | hknows
  · obtain ⟨hresult, hstate⟩ := compile_of_laid_eq hsite hlaid hlaidAgain hsame
    rw [hresult, hstate]
    exact ⟨hok, rfl⟩
  · exact compile_of_knows hok hlaid hlaidAgain hsame hknows

theorem output_of_error {before after : List Text} {name : Text} {n : Nat} {e : BuildError}
    (hbefore : ((beforePages w.site).run w).1.result = .ok (before ++ name :: after, n))
    (hreached : ((writePages w.site.destination before).run
      ((beforePages w.site).run w).2).1.result = .ok ())
    (hrender : ((render name).run ((writePages w.site.destination before).run
      ((beforePages w.site).run w).2).2).1.result = .error e) :
    (compile.run w).1.result = .error e ∧
      (writtenPages w).map Prod.fst = before ∧
      Holds (writtenPages w) (w.site.static? w.files) fun rel =>
        (compile.run w).2.files.entryAt? (w.files.place w.site.destination ++ rel) := by
  obtain ⟨pages, hnames, hlaid, -, -⟩ := of_beforePages hbefore
  obtain ⟨hresult, -, -⟩ := compile_of_error hbefore hrender
  obtain ⟨hhanded, -, -⟩ := writePages_of_error hrender after
  have hpages := (writtenPages_of_beforePages hbefore).trans hhanded
  have hascending : before.Pairwise (· < ·) := by
    have hall := pairwise_keys pages
    rw [← hnames] at hall
    exact (List.pairwise_append.mp hall).1
  obtain ⟨-, hholds⟩ := holds_of_writePages h hpaths hlaid hascending hreached hpages
  refine ⟨hresult hreached, ?_, hholds⟩
  rw [hpages]
  exact map_fst_handedPages hreached

end Output

/-- A compilation to a destination that is separate from the source leaves there the static files
with the written pages over them, and nothing of what was there before, whether it succeeds or fails
for a page that cannot be rendered. Each page is written as the compiled site renders it. If the
compilation succeeds, all pages of the site are written and all files are counted, and it does so
again for the site as it was before, and for the compiled site whatever else it comes to know. -/
theorem compile_output (w : Workspace) (h : Separate w.site w.files)
    (hpaths : ∀ p ∈ writtenPaths w, Path.IsDownward p) :
    let found := (beforePages w.site).run w
    let last := (compile.run w).2
    let held? := fun rel => last.files.entryAt? (w.files.place w.site.destination ++ rel)
    (∀ p ∈ writtenPages w, ((render p.1).run last).1.result = .ok p.2 ∧
      ∃ pages page, last.site.pages? = some pages ∧ pages.find? p.1 = some page ∧
        p.2.path = page.outputPath) ∧
      (∀ summary, (compile.run w).1.result = .ok summary →
        ∃ pages, last.site.pages? = some pages ∧
          (writtenPages w).map Prod.fst = pages.keys ∧
          Holds (writtenPages w) (w.site.static? w.files) held? ∧
          summary = ⟨pages.keys.length,
            w.files.countFiles (w.site.layout.staticFolder w.site.source)⟩ ∧
          ∀ again : Workspace, again.files = last.files →
            again.site = w.site ∨ Knows last.site again.site →
              (compile.run again).1.result = .ok summary ∧
                (compile.run again).2.files = last.files) ∧
      ∀ before name after staticFiles e,
        found.1.result = .ok (before ++ name :: after, staticFiles) →
        let reached := (writePages w.site.destination before).run found.2
        reached.1.result = .ok () → ((render name).run reached.2).1.result = .error e →
          (compile.run w).1.result = .error e ∧
            (writtenPages w).map Prod.fst = before ∧
            Holds (writtenPages w) (w.site.static? w.files) held? := by
  intro found last held?
  refine ⟨fun p hp => render_of_mem_writtenPages hp, fun summary hok => ?_, ?_⟩
  · obtain ⟨pages, hknown, hnames, hholds, hsummary⟩ := output_of_ok h hpaths hok
    refine ⟨pages, hknown, hnames, hholds, hsummary, fun again hfiles hsite => ?_⟩
    exact compile_again h hpaths hok hfiles hsite
  · intro before name after n e hbefore reached hreached hrender
    exact output_of_error h hpaths hbefore hreached hrender

/-- The second one of two pages with one path lies over a static file, and what was in the
destination before is gone. -/
theorem compile_output_over_old_files :
    let entry (t : Text) : FileEntry := .file (Text.encode t)
    let root := (FileSystem.empty.put ["s".toList] .directory).put ["out".toList] .directory
    let page (template : Text) : Page := { template, url := "a.html".toList }
    let w : Workspace :=
      { files :=
          ((root.put ["out".toList, "old".toList] (entry "0".toList)).put
            ["s".toList, "static".toList] .directory).put
            ["s".toList, "static".toList, "a.html".toList] (entry "1".toList)
        site :=
          { source := "s".toList, destination := "./out".toList, production := false, layout := {},
            convert := id, expansions := 0, globals? := some ∅
            templates := ⟨"s/templates".toList, "html".toList,
              .ofList [("t".toList, "2".toList), ("u".toList, "3".toList)]⟩
            pages? :=
              some (.ofList [("a".toList, page "t".toList), ("b".toList, page "u".toList)]) } }
    let last := (compile.run w).2
    Separate w.site w.files ∧ (∀ p ∈ writtenPaths w, Path.IsDownward p) ∧
      (compile.run w).1.result = .ok ⟨2, 1⟩ ∧
      last.files.entryAt? ["out".toList, "a.html".toList] = some (entry "3".toList) ∧
      last.files.entryAt? ["out".toList, "old".toList] = none ∧
      (compile.run last).1.result = .ok ⟨2, 1⟩ ∧ (compile.run last).2.files = last.files := by
  intro entry root page w last
  have hseparate : Separate w.site w.files :=
    { isTree := by decide +kernel
      source := by decide +kernel
      destination := .inr (by decide +kernel)
      not_below := by decide
      not_above := by decide
      arrivesLast := ⟨by decide, by decide⟩
      source_way := by decide
      destination_way := by decide
      static := Location.staysBelow_of_isDownward (by decide) _ }
  have hwritten : writtenPages w =
      [("a".toList, ⟨"a.html".toList, "2".toList⟩),
        ("b".toList, ⟨"a.html".toList, "3".toList⟩)] := by
    decide +kernel
  have hpaths : ∀ p ∈ writtenPaths w, Path.IsDownward p := by
    unfold writtenPaths
    rw [hwritten]
    decide
  have hok : (compile.run w).1.result = .ok ⟨2, 1⟩ := eq_ok_of_toOption (by decide +kernel)
  obtain ⟨-, hsuccess, -⟩ := compile_output w hseparate hpaths
  obtain ⟨pages, -, -, hholds, -, hagain⟩ := hsuccess _ hok
  obtain ⟨hresult, hsame⟩ := hagain last rfl (.inr (.refl _))
  refine ⟨hseparate, hpaths, hok, ?_, ?_, hresult, hsame⟩
  · refine hholds.page ("b".toList, ⟨"a.html".toList, "3".toList⟩) ?_ ?_
    · rw [hwritten]
      decide
    · rw [hwritten]
      decide
  · have hold := hholds.overlaid ["old".toList] (by decide)
    rw [hwritten] at hold
    exact hold.trans (by decide +kernel)

/-- The path of the destination goes through a folder that is missing, so nothing is found there at
first. The old directory is not emptied. -/
theorem compile_keeps_old_files :
    let old : FileEntry := .file (Text.encode "0".toList)
    let w : Workspace :=
      { files := ((FileSystem.empty.put ["s".toList] .directory).put ["out".toList] .directory).put
          ["out".toList, "old".toList] old
        site :=
          { source := "s".toList, destination := "x/../out".toList, production := false,
            layout := {}, convert := id, expansions := 0, globals? := some ∅
            templates := ⟨"s/templates".toList, "html".toList, ∅⟩
            pages? := some ∅ } }
    let place := w.files.place w.site.destination
    w.files.IsTree ∧ w.files.isDirectory w.site.source = true ∧
      place = ["out".toList] ∧ w.files.entryAt? place = some .directory ∧
      ¬ place <+: w.files.place w.site.source ∧ ¬ w.files.place w.site.source <+: place ∧
      (compile.run w).1.result = .ok ⟨0, 0⟩ ∧ writtenPages w = [] ∧
      w.files.isDirectory (w.site.layout.staticFolder w.site.source) = false ∧
      (compile.run w).2.files.entryAt? (place ++ ["old".toList]) = some old := by
  intro old w place
  refine ⟨by decide +kernel, by decide +kernel, by decide, by decide, by decide, by decide, ?_,
    by decide +kernel, by decide +kernel, by decide +kernel⟩
  exact eq_ok_of_toOption (by decide +kernel)

end Site

end StaticSite
