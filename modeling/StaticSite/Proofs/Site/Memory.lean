import StaticSite.Proofs.Site.Calls

/-!
# What a site remembers

Calls on a site while its files change. What the site knows at any time can be told from the calls
and the files that each one met, without a site (`firstPages`, `firstGlobals`): it is what was in
its file (`pagesIn`, `globalsIn`) at the first moment at which a call needed it and it could be
read. A call works with that, or with what is in the files at its own moment
(`outcome_after_history`). So what is known is never lost and never read again, and a failure to
read the one leaves the other alone.
-/

namespace StaticSite

namespace Site

/-- What happens to a workspace from outside. -/
inductive Event
  /-- The files change to any other ones. -/
  | change (files : FileSystem)
  /-- Something is asked of the site. -/
  | call (c : Call)

/-- The workspace after an event. -/
def Event.after : Event → Workspace → Workspace
  | change files, w => { w with files }
  | call c, w => c.after w

/-- The workspace after a history of events. -/
def afterHistory (events : List Event) (w : Workspace) : Workspace :=
  events.foldl (fun w e => e.after w) w

/-- A call and the files that it meets. -/
structure Moment where
  /-- The files at that time. -/
  files : FileSystem
  /-- The call. -/
  call : Call

/-- The calls of a history with the files that each of them meets. -/
def moments : FileSystem → List Event → List Moment
  | _, [] => []
  | _, .change files :: events => moments files events
  | files, .call c :: events => ⟨files, c⟩ :: moments files events

/-- The files at the end of a history. -/
def filesAfter : FileSystem → List Event → FileSystem
  | files, [] => files
  | _, .change files :: events => filesAfter files events
  | files, .call _ :: events => filesAfter files events

/-! ## What is in the files -/

/-- What comes of opening a spec file and parsing its lines. A directory can be opened as well, and
then no line can be read. -/
def inSpecFile {α : Type} (files : FileSystem) (p : Path) (parse : List Spec.Line → Outcome α) :
    Outcome α :=
  match files.find p with
  | .error cause => ⟨[], .error (.specNotFound p cause)⟩
  | .ok (_, .directory) => parse [none]
  | .ok (_, .file content) => parse (Spec.linesOfBytes content)

/-- The pages in the page file of a site. Their contents are in files of their own. -/
def pagesIn (files : FileSystem) (site : Site) : Outcome PageSet :=
  let p := Path.join site.source site.layout.pages
  let contentPath (folder : Path) (stem : Text) := Path.join (Path.join site.source folder) stem
  let read (folder : Path) (stem : Text) : Except FileError Text :=
    match files.readText (contentPath folder stem) with
    | .error cause => .error cause
    | .ok t => .ok (site.convert t)
  let opened := inSpecFile files p (Spec.parsePages
    { contentPath := contentPath site.layout.content
      content := read site.layout.content
      preview := read site.layout.preview
      line := read site.layout.line })
  ⟨.loadingPages p :: opened.log, opened.result⟩

/-- The global variables in their file. -/
def globalsIn (files : FileSystem) (site : Site) : Outcome Bindings :=
  let p := Path.join site.source site.layout.globals
  let opened := inSpecFile files p (Spec.parseGlobals site.production)
  ⟨.loadingGlobals p :: opened.log, opened.result⟩

theorem andThen_specLines {α : Type} (files : FileSystem) (p : Path)
    (parse : List Spec.Line → Outcome α) :
    (specLines files p).andThen parse = inSpecFile files p parse := by
  unfold specLines Spec.lines inSpecFile
  cases files.find p with
  | error cause => rfl
  | ok found =>
    obtain ⟨place, entry⟩ := found
    cases entry <;> rfl

theorem note_andThen {α : Type} (e : LogEntry) (x : Outcome α) :
    ((Outcome.note e).andThen fun _ => x) = ⟨e :: x.log, x.result⟩ := rfl

theorem readPages_eq (files : FileSystem) (site : Site) :
    readPages files site = pagesIn files site := by
  have hread : ∀ folder stem,
      (files.readText (Path.join (Path.join site.source folder) stem)).map site.convert =
        match files.readText (Path.join (Path.join site.source folder) stem) with
        | .error cause => .error cause
        | .ok t => .ok (site.convert t) :=
    fun folder stem => by cases files.readText _ <;> rfl
  unfold readPages pagesIn Spec.ContentSource.ofLayout
  simp only [Outcome.bind_eq, note_andThen, andThen_specLines, hread, Layout.pagesFile]

theorem readGlobals_eq (files : FileSystem) (site : Site) :
    readGlobals files site = globalsIn files site := by
  unfold readGlobals globalsIn
  simp only [Outcome.bind_eq, note_andThen, andThen_specLines, Layout.globalsFile]

/-! ## What was read first -/

/-- What was read at the first moment at which it was needed and could be read. Whether a moment
needs it can depend on the earlier ones. -/
def firstRead {α : Type} (inFile : FileSystem → Outcome α) (needed : List Moment → Moment → Bool)
    (earlier : List Moment) : List Moment → Option α
  | [] => none
  | m :: later =>
    (if needed earlier m then (inFile m.files).result.toOption else none).or
      (firstRead inFile needed (earlier ++ [m]) later)

section FirstRead

variable {α : Type} {inFile : FileSystem → Outcome α} {needed : List Moment → Moment → Bool}

theorem firstRead_append (earlier past later : List Moment) :
    firstRead inFile needed earlier (past ++ later) =
      (firstRead inFile needed earlier past).or
        (firstRead inFile needed (earlier ++ past) later) := by
  induction past generalizing earlier with
  | nil => simp [firstRead]
  | cons m past ih => simp [firstRead, ih, Option.or_assoc]

theorem firstRead_concat (past : List Moment) (m : Moment) :
    firstRead inFile needed [] (past ++ [m]) =
      (firstRead inFile needed [] past).or
        (if needed past m then (inFile m.files).result.toOption else none) := by
  rw [firstRead_append, List.nil_append, firstRead, firstRead, Option.or_none]

end FirstRead

/-- The pages of the first moment at which a call needed them and they could be read. -/
def firstPages (site : Site) (past : List Moment) : Option PageSet :=
  firstRead (fun files => pagesIn files site) (fun _ m => m.call.needsPages) [] past

/-- The global variables of the first moment at which a call needed them and they could be read.
Rendering needs them once pages were found. -/
def firstGlobals (site : Site) (past : List Moment) : Option Bindings :=
  firstRead (fun files => globalsIn files site)
    (fun earlier m => m.call.needsGlobals (firstPages site (earlier ++ [m])).isSome) [] past

/-! ## What a site knows -/

/-- A workspace knows what was read first in its past, and has the settings of the site. -/
structure Remembers (site : Site) (past : List Moment) (w : Workspace) : Prop where
  /-- The settings are those of the site. -/
  bare_eq : w.site.bare = site.bare
  /-- The pages are those that were read first. -/
  pages_eq : w.site.pages? = firstPages site past
  /-- The global variables are those that were read first. -/
  globals_eq : w.site.globals? = firstGlobals site past

section Remembers

variable {site : Site} {past : List Moment} {w : Workspace}

/-- What a call works with can be told from what is known and from the files. -/
theorem now_keptPages (hbare : w.site.bare = site.bare) :
    keptPages.now w = knownOr w.site.pages? (pagesIn w.files site) := by
  rw [Kept.now, ofSettings_keptPages.read_eq hbare, ← readPages_eq]
  rfl

theorem now_keptGlobals (hbare : w.site.bare = site.bare) :
    keptGlobals.now w = knownOr w.site.globals? (globalsIn w.files site) := by
  rw [Kept.now, ofSettings_keptGlobals.read_eq hbare, ← readGlobals_eq]
  rfl

/-- The pages that a call works with are those that were read first, the call included. -/
theorem Remembers.toOption_now (h : Remembers site past w) {c : Call}
    (hneeds : c.needsPages = true) :
    (keptPages.now w).result.toOption = firstPages site (past ++ [⟨w.files, c⟩]) := by
  rw [now_keptPages h.bare_eq, toOption_knownOr, h.pages_eq, firstPages, firstPages,
    firstRead_concat, if_pos hneeds]

/-- Whether a call needs the global variables can be told from the past and the call. -/
theorem Remembers.needsGlobals_eq (h : Remembers site past w) (c : Call) :
    c.needsGlobals (keptPages.now w).result.toOption.isSome =
      c.needsGlobals (firstPages site (past ++ [⟨w.files, c⟩])).isSome := by
  cases c with
  | render name =>
    have hneeds : (Call.render name).needsPages = true := rfl
    rw [h.toOption_now hneeds]
  | pages | globals | template => rfl

/-- One call adds itself to the past. -/
theorem Remembers.call (h : Remembers site past w) (c : Call) :
    Remembers site (past ++ [⟨w.files, c⟩]) (c.after w) := by
  refine ⟨by rw [c.bare_after, h.bare_eq], ?_, ?_⟩
  · rw [c.pages?_after]
    by_cases hneeds : c.needsPages = true
    · rw [if_pos hneeds, h.toOption_now hneeds]
    · rw [if_neg hneeds, h.pages_eq, firstPages, firstPages, firstRead_concat, if_neg hneeds,
        Option.or_none]
  · rw [c.globals?_after, h.needsGlobals_eq, now_keptGlobals h.bare_eq, toOption_knownOr,
      h.globals_eq, firstGlobals, firstGlobals, firstRead_concat]
    cases c.needsGlobals (firstPages site (past ++ [⟨w.files, c⟩])).isSome <;> simp

/-- The past that a history makes. -/
theorem Remembers.history (h : Remembers site past w) (events : List Event) :
    Remembers site (past ++ moments w.files events) (afterHistory events w) ∧
      (afterHistory events w).files = filesAfter w.files events := by
  induction events generalizing past w with
  | nil =>
    rw [moments, List.append_nil]
    exact ⟨h, rfl⟩
  | cons e events ih =>
    cases e with
    | change files =>
      have hchanged : Remembers site past { w with files } :=
        ⟨h.bare_eq, h.pages_eq, h.globals_eq⟩
      exact ih hchanged
    | call c =>
      have hcall := ih (h.call c)
      rw [c.files_after, List.append_assoc] at hcall
      exact hcall

end Remembers

/-! ## Calls after a history -/

/-- The pages that a call works with after a history: those that were read first, or else those in
the page file at that time. -/
def pagesAfter (files : FileSystem) (site : Site) (events : List Event) : Outcome PageSet :=
  knownOr (firstPages site (moments files events)) (pagesIn (filesAfter files events) site)

/-- The global variables that a call works with after a history: those that were read first, or
else those in their file at that time. -/
def globalsAfter (files : FileSystem) (site : Site) (events : List Event) : Outcome Bindings :=
  knownOr (firstGlobals site (moments files events)) (globalsIn (filesAfter files events) site)

theorem moments_append (files : FileSystem) (events later : List Event) :
    moments files (events ++ later) =
      moments files events ++ moments (filesAfter files events) later := by
  induction events generalizing files with
  | nil => rfl
  | cons e events ih =>
    cases e with
    | change changed => exact ih changed
    | call c => exact congrArg (_ :: ·) (ih files)

theorem pagesAfter_append {files : FileSystem} {site : Site} {events : List Event}
    {pages : PageSet} (h : firstPages site (moments files events) = some pages)
    (later : List Event) : pagesAfter files site (events ++ later) = .ok pages := by
  unfold pagesAfter firstPages at *
  rw [moments_append, firstRead_append, h, Option.some_or]
  rfl

theorem globalsAfter_append {files : FileSystem} {site : Site} {events : List Event}
    {globals : Bindings} (h : firstGlobals site (moments files events) = some globals)
    (later : List Event) : globalsAfter files site (events ++ later) = .ok globals := by
  unfold globalsAfter firstGlobals at *
  rw [moments_append, firstRead_append, h, Option.some_or]
  rfl

theorem Remembers.of_create {files : FileSystem} {settings : BuildSettings} {site : Site}
    (h : (create files settings).result = .ok site) : Remembers site [] ⟨files, site⟩ where
  bare_eq := rfl
  pages_eq := (unknown_of_create h).1
  globals_eq := (unknown_of_create h).2.1

/-- After any history of calls and changed files, a new site knows the pages and the global
variables that were read first, and no others. Each call works with those, or with what is in the
files at its own time, which is an error if a file cannot be opened or parsed; and what is known
once is worked with from then on, whatever happens. -/
theorem outcome_after_history {files : FileSystem} {settings : BuildSettings} {site : Site}
    (h : (create files settings).result = .ok site) (events : List Event) :
    let w := afterHistory events ⟨files, site⟩
    let past := moments files events
    w.files = filesAfter files events ∧
      w.site.pages? = firstPages site past ∧
      w.site.globals? = firstGlobals site past ∧
      (pages.run w).1 = pagesAfter files site events ∧
      (globals.run w).1 = globalsAfter files site events ∧
      (∀ name, ((render name).run w).1 =
        (pagesAfter files site events).andThen fun pages =>
          (globalsAfter files site events).andThen fun globals =>
            (renderedWith name pages globals w).1) ∧
      (∀ pages, firstPages site past = some pages →
        ∀ later, pagesAfter files site (events ++ later) = .ok pages) ∧
      ∀ globals, firstGlobals site past = some globals →
        ∀ later, globalsAfter files site (events ++ later) = .ok globals := by
  intro w past
  obtain ⟨⟨hbare, hpages, hglobals⟩, hfiles⟩ := (Remembers.of_create h).history events
  rw [List.nil_append] at hpages hglobals
  have hpagesNow : keptPages.now w = pagesAfter files site events := by
    rw [now_keptPages hbare, hpages, hfiles, pagesAfter]
  have hglobalsNow : keptGlobals.now w = globalsAfter files site events := by
    rw [now_keptGlobals hbare, hglobals, hfiles, globalsAfter]
  refine ⟨hfiles, hpages, hglobals, ?_, ?_, fun name => ?_, fun _ => pagesAfter_append,
    fun _ => globalsAfter_append⟩
  · rw [pages, Kept.run_ask, hpagesNow]
  · rw [globals, Kept.run_ask, hglobalsNow]
  · rw [run_render, loadNow, hpagesNow, hglobalsNow]
    simp only [Outcome.andThen_assoc, Outcome.ok_andThen]

/-- The pages were read for a page that could not be rendered for want of a file of global
variables. They are known when all files are gone, and the global variables are looked for again. -/
theorem pages_after_failed_render :
    let files := (FileSystem.empty.put ["s".toList] .directory).put
      ["s".toList, "pages.spec".toList] (.file (Text.encode "[a]".toList))
    let settings : BuildSettings :=
      { source := "s".toList, layout := some {}, convert := some id }
    let events := [.call (.render "a".toList), .change .empty]
    ∃ site, (create files settings).result = .ok site ∧
      (pages.run (afterHistory events ⟨files, site⟩)).1 = .ok (.ofList [("a".toList, {})]) ∧
      (globals.run (afterHistory events ⟨files, site⟩)).1.result =
        .error (.specNotFound "s/globals.spec".toList .notFound) := by
  intro files settings events
  have hcreate : (create files settings).result = .ok _ := rfl
  obtain ⟨-, -, -, hpages, hglobals, -⟩ := outcome_after_history hcreate events
  refine ⟨_, hcreate, ?_, ?_⟩
  · rw [hpages]
    rfl
  · rw [hglobals]
    rfl

end Site

end StaticSite
