import StaticSite.Proofs.Page.Check
import StaticSite.Proofs.Site.Calls
import StaticSite.Proofs.Site.Write

/-!
# No placeholder is written

A compilation renders and writes the pages one after the other. What it writes are the pages of
`writtenPages`, in their order, and nothing else (`files_compile`). None of them holds a
placeholder, and a page that holds one when it is processed ends the compilation before anything is
written for it (`compile_writes_no_placeholder`).
-/

namespace StaticSite

namespace Site

/-! ## Rendering -/

/-- A page with given pages and global variables, in the form that is looked through for what is
left. -/
def processLoaded (name : Text) (pages : PageSet) (globals : Bindings) :
    Stage Workspace RenderedPage :=
  match pages.find? name with
  | none => Stage.fail (.pageNotFound name)
  | some page => do
    let w ← Stage.get
    let context : RenderContext := { pages, globals, expansions := w.site.expansions }
    onTemplates fun files => processPage files context name page

/-- A page of the site in the form that is looked through for what is left. -/
def process (name : Text) : Stage Workspace RenderedPage := do
  let (pages, globals) ← load
  processLoaded name pages globals

theorem onTemplates_bind_lift {α β : Type} (x : FileSystem → Stage TemplateStore α)
    (f : α → Outcome β) :
    (onTemplates fun files => x files >>= fun a => Stage.lift (f a)) =
      onTemplates x >>= fun a => Stage.lift (f a) := by
  funext w
  show Stage.onPart _ _ (Stage.andThen (x w.files) fun a => Stage.lift (f a)) w =
    Stage.andThen (onTemplates x) (fun a => Stage.lift (f a)) w
  unfold onTemplates Stage.andThen Stage.onPart Stage.lift
  dsimp only
  rcases x w.files w.site.templates with ⟨⟨log, result⟩, templates⟩
  cases result <;> rfl

/-- Rendering is processing and then checking. -/
theorem render_eq (name : Text) :
    render name = process name >>= fun page => Stage.lift (checkPage name page) := by
  have hloaded : ∀ pages globals, renderLoaded name pages globals =
      processLoaded name pages globals >>= fun page => Stage.lift (checkPage name page) := by
    intro pages globals
    unfold renderLoaded processLoaded
    cases pages.find? name with
    | none => rfl
    | some page => simp only [renderPage_eq, onTemplates_bind_lift, bind_assoc]
  simp only [render, process, hloaded, bind_assoc]

section Render

variable {name : Text} {w : Workspace} {page : RenderedPage}

theorem not_holds_of_render (h : ((render name).run w).1.result = .ok page) :
    ¬ HoldsPlaceholder page.content := by
  rw [render_eq, Stage.outcome_bind, Outcome.result_andThen_eq_ok_iff] at h
  obtain ⟨processed, -, hchecked⟩ := h
  obtain ⟨rfl, hfree⟩ := result_checkPage_eq_ok_iff.mp hchecked
  exact hfree

theorem result_render_of_holds (h : ((process name).run w).1.result = .ok page)
    (hholds : HoldsPlaceholder page.content) :
    ∃ raw, IsFirstPlaceholder page.content raw ∧
      ((render name).run w).1.result = .error (.unresolvedVariable name raw) := by
  obtain ⟨raw, hfirst, hchecked⟩ := result_checkPage_of_holds hholds name
  refine ⟨raw, hfirst, ?_⟩
  rw [render_eq, Stage.result_bind, h]
  exact hchecked

end Render

/-! ## The loop over the pages -/

/-- One round of the loop. -/
def writeNamed (destination : Path) (name : Text) : Stage Workspace Unit := do
  Stage.note (.loadingPage name)
  let page ← render name
  onFiles (writePage destination page)

section Loop

variable {destination : Path} {name : Text} {names : List Text} {w : Workspace}

theorem writePages_cons (destination : Path) (name : Text) (names : List Text) :
    writePages destination (name :: names) =
      writeNamed destination name >>= fun _ => writePages destination names := by
  simp only [writePages, writeNamed, bind_assoc]

theorem writePages_append (destination : Path) (before after : List Text) :
    writePages destination (before ++ after) =
      writePages destination before >>= fun _ => writePages destination after := by
  induction before with
  | nil => simp only [List.nil_append, writePages, pure_bind]
  | cons name before ih => simp only [List.cons_append, writePages_cons, ih, bind_assoc]

/-- A page that cannot be rendered ends the loop before anything is written for it. -/
theorem writeNamed_of_error {e : BuildError} (destination : Path)
    (h : ((render name).run w).1.result = .error e) :
    ((writeNamed destination name).run w).1.result = .error e ∧
      ((writeNamed destination name).run w).2.files = w.files := by
  have hfiles := (Call.render name).files_after w
  unfold writeNamed
  simp only [Stage.result_bind, Stage.state_bind, Stage.run_note, Outcome.result_note, h]
  exact ⟨rfl, hfiles⟩

/-- A page that was rendered is written. -/
theorem writeNamed_of_ok {page : RenderedPage} (destination : Path)
    (h : ((render name).run w).1.result = .ok page) :
    ((writeNamed destination name).run w).1.result =
        ((writePage destination page).run w.files).1.result ∧
      ((writeNamed destination name).run w).2.files =
        ((writePage destination page).run w.files).2 := by
  have hfiles : ((render name).run w).2.files = w.files := (Call.render name).files_after w
  unfold writeNamed
  simp only [Stage.result_bind, Stage.state_bind, Stage.run_note, Outcome.result_note, h]
  rw [← hfiles]
  exact ⟨rfl, rfl⟩

/-- The pages that the loop hands over to be written, with their names. -/
def handedPages (destination : Path) : List Text → Workspace → List (Text × RenderedPage)
  | [], _ => []
  | name :: names, w =>
    match ((render name).run w).1.result with
    | .error _ => []
    | .ok page =>
      (name, page) ::
        match ((writeNamed destination name).run w).1.result with
        | .error _ => []
        | .ok _ => handedPages destination names ((writeNamed destination name).run w).2

/-- The loop changes the files by writing the pages that it hands over. -/
theorem files_writePages (destination : Path) (names : List Text) (w : Workspace) :
    ((writePages destination names).run w).2.files =
      ((writeEach destination ((handedPages destination names w).map Prod.snd)).run w.files).2 := by
  induction names generalizing w with
  | nil => rfl
  | cons name names ih =>
    rw [writePages_cons, Stage.state_bind, handedPages]
    cases hrender : ((render name).run w).1.result with
    | error e =>
      -- the loop ends here, and nothing is handed over
      obtain ⟨hresult, hfiles⟩ := writeNamed_of_error destination hrender
      rw [hresult]
      exact hfiles
    | ok page =>
      obtain ⟨hresult, hfiles⟩ := writeNamed_of_ok destination hrender
      rw [List.map_cons, writeEach, Stage.state_bind, ← hresult, ← hfiles]
      cases ((writeNamed destination name).run w).1.result with
      | error e => rfl
      | ok done => exact ih _

theorem writeEach_of_writePages (h : ((writePages destination names).run w).1.result = .ok ()) :
    ((writeEach destination ((handedPages destination names w).map Prod.snd)).run
      w.files).1.result = .ok () := by
  induction names generalizing w with
  | nil => rfl
  | cons name names ih =>
    rw [writePages_cons] at h
    simp only [Stage.outcome_bind, Outcome.result_andThen_eq_ok_iff] at h
    obtain ⟨_, hfirst, hrest⟩ := h
    cases hrender : ((render name).run w).1.result with
    | error e =>
      rw [(writeNamed_of_error destination hrender).1] at hfirst
      cases hfirst
    | ok page =>
      obtain ⟨hresult, hfiles⟩ := writeNamed_of_ok destination hrender
      rw [handedPages, hrender]
      dsimp only
      rw [hfirst, List.map_cons, writeEach, Stage.result_bind, ← hresult, ← hfiles, hfirst]
      exact ih hrest

theorem not_holds_of_mem_handedPages {p : Text × RenderedPage}
    (h : p ∈ handedPages destination names w) : ¬ HoldsPlaceholder p.2.content := by
  induction names generalizing w with
  | nil => cases h
  | cons name names ih =>
    rw [handedPages] at h
    cases hrender : ((render name).run w).1.result with
    | error e =>
      rw [hrender] at h
      cases h
    | ok page =>
      rw [hrender] at h
      rcases List.mem_cons.mp h with rfl | hlater
      · exact not_holds_of_render hrender
      · cases hresult : ((writeNamed destination name).run w).1.result with
        | error e =>
          rw [hresult] at hlater
          cases hlater
        | ok done =>
          rw [hresult] at hlater
          exact ih hlater

theorem handedPages_append (destination : Path) (before after : List Text) (w : Workspace) :
    handedPages destination (before ++ after) w =
      handedPages destination before w ++
        match ((writePages destination before).run w).1.result with
        | .error _ => []
        | .ok _ => handedPages destination after ((writePages destination before).run w).2 := by
  induction before generalizing w with
  | nil => rfl
  | cons name before ih =>
    rw [List.cons_append, handedPages, handedPages, writePages_cons, Stage.result_bind,
      Stage.state_bind]
    cases hrender : ((render name).run w).1.result with
    | error e =>
      rw [(writeNamed_of_error destination hrender).1]
      rfl
    | ok page =>
      cases ((writeNamed destination name).run w).1.result with
      | error e => rfl
      | ok done => exact congrArg (_ :: ·) (ih _)

/-- The loop goes through the names in their order. -/
theorem map_fst_handedPages_prefix (destination : Path) (names : List Text) (w : Workspace) :
    (handedPages destination names w).map Prod.fst <+: names := by
  induction names generalizing w with
  | nil => exact List.prefix_rfl
  | cons name names ih =>
    rw [handedPages]
    cases ((render name).run w).1.result with
    | error e => exact List.nil_prefix
    | ok page =>
      cases ((writeNamed destination name).run w).1.result with
      | error e => exact List.cons_prefix_cons.mpr ⟨rfl, List.nil_prefix⟩
      | ok done => exact List.cons_prefix_cons.mpr ⟨rfl, ih _⟩

/-- A page that cannot be rendered ends the loop: nothing is written for it or for a later one. -/
theorem writePages_of_error {e : BuildError} {before : List Text}
    (h : ((render name).run ((writePages destination before).run w).2).1.result = .error e)
    (after : List Text) :
    handedPages destination (before ++ name :: after) w = handedPages destination before w ∧
      ((writePages destination (before ++ name :: after)).run w).2.files =
        ((writePages destination before).run w).2.files ∧
      (((writePages destination before).run w).1.result = .ok () →
        ((writePages destination (before ++ name :: after)).run w).1.result = .error e) := by
  obtain ⟨hresult, hfiles⟩ := writeNamed_of_error destination h
  rw [handedPages_append, handedPages, h, writePages_append, writePages_cons]
  simp only [Stage.state_bind, Stage.result_bind]
  -- if the loop does not even come to this page, it has ended before
  cases ((writePages destination before).run w).1.result with
  | error e => exact ⟨List.append_nil _, rfl, nofun⟩
  | ok done =>
    simp only [hresult]
    exact ⟨List.append_nil _, hfiles, fun _ => rfl⟩

end Loop

/-! ## A compilation -/

/-- What a compilation does before its pages: it answers with their names and the number of static
files. -/
def beforePages (site : Site) : Stage Workspace (List Text × Nat) := do
  Stage.note .started
  onFiles (prepareDestination site.source site.destination)
  let staticFiles ←
    onFiles (copyStaticFiles (site.layout.staticFolder site.source) site.destination)
  let names := (← pages).keys
  pure (names, staticFiles)

/-- A compilation is what comes before the pages, and the loop over them. -/
theorem run_compile (w : Workspace) :
    compile.run w =
      (beforePages w.site >>= fun found =>
        writePages w.site.destination found.1 >>= fun _ =>
          Stage.note .finished >>= fun _ => pure ⟨found.1.length, found.2⟩).run w := by
  simp only [compile, beforePages, bind_assoc, pure_bind]
  rfl

/-- The pages that a compilation writes, with their names, in the order in which it does. -/
def writtenPages (w : Workspace) : List (Text × RenderedPage) :=
  match ((beforePages w.site).run w).1.result with
  | .error _ => []
  | .ok (names, _) => handedPages w.site.destination names ((beforePages w.site).run w).2

/-- Beside what comes before the pages, a compilation changes the files by writing its pages. -/
theorem files_compile (w : Workspace) :
    (compile.run w).2.files =
      ((writeEach w.site.destination ((writtenPages w).map Prod.snd)).run
        ((beforePages w.site).run w).2.files).2 := by
  rw [run_compile, Stage.state_bind, writtenPages]
  cases ((beforePages w.site).run w).1.result with
  | error e => rfl
  | ok found =>
    simp only [← files_writePages, Stage.state_bind]
    cases ((writePages w.site.destination found.1).run ((beforePages w.site).run w).2).1.result with
    | error e => rfl
    | ok done => rfl

theorem not_holds_of_mem_writtenPages {w : Workspace} {p : Text × RenderedPage}
    (h : p ∈ writtenPages w) : ¬ HoldsPlaceholder p.2.content := by
  unfold writtenPages at h
  split at h
  · cases h
  · exact not_holds_of_mem_handedPages h

/-- The names of the pages ascend. -/
theorem nodup_of_beforePages {site : Site} {w : Workspace} {names : List Text} {staticFiles : Nat}
    (h : ((beforePages site).run w).1.result = .ok (names, staticFiles)) : names.Nodup := by
  unfold beforePages at h
  simp only [Stage.outcome_bind, Outcome.result_andThen_eq_ok_iff] at h
  obtain ⟨_, -, _, -, _, -, found, -, hnames⟩ := h
  cases hnames
  exact found.nodup_keys

/-- A page that cannot be rendered ends the compilation: nothing is written for it or for a later
one. -/
theorem compile_of_error {w : Workspace} {before after : List Text} {name : Text}
    {staticFiles : Nat} {e : BuildError}
    (hfound : ((beforePages w.site).run w).1.result = .ok (before ++ name :: after, staticFiles))
    (hrender : ((render name).run
      ((writePages w.site.destination before).run ((beforePages w.site).run w).2).2).1.result =
        .error e) :
    let reached := (writePages w.site.destination before).run ((beforePages w.site).run w).2
    (reached.1.result = .ok () → (compile.run w).1.result = .error e) ∧
      (∀ p ∈ writtenPages w, p.1 ∉ name :: after) ∧
      (compile.run w).2.files = reached.2.files := by
  intro reached
  obtain ⟨hhanded, hstopped, hresult⟩ := writePages_of_error hrender after
  have hwritten : writtenPages w =
      handedPages w.site.destination before ((beforePages w.site).run w).2 := by
    rw [← hhanded, writtenPages, hfound]
  refine ⟨fun hreached => ?_, fun p hp => ?_, ?_⟩
  · rw [run_compile, Stage.result_bind, hfound]
    simp only [Except.bind, Stage.result_bind]
    rw [hresult hreached]
  · have hprefix :=
      map_fst_handedPages_prefix w.site.destination before ((beforePages w.site).run w).2
    have hbefore : p.1 ∈ before := hprefix.subset (List.mem_map_of_mem (hwritten ▸ hp))
    intro hlater
    have hdistinct := (List.nodup_append.mp (nodup_of_beforePages hfound)).2.2
    exact hdistinct _ hbefore _ hlater rfl
  · rw [files_compile, hwritten, ← hhanded, ← files_writePages]
    exact hstopped

/-- No placeholder is written: a compilation changes the files by writing pages that hold none. A
page whose processed text holds one is refused, with its name and the first placeholder in the
text. It ends the compilation, and nothing is written for this page or for a later one. -/
theorem compile_writes_no_placeholder (w : Workspace) :
    let destination := w.site.destination
    let found := (beforePages w.site).run w
    let written := writtenPages w
    (compile.run w).2.files =
        ((writeEach destination (written.map Prod.snd)).run found.2.files).2 ∧
      (∀ p ∈ written, ¬ HoldsPlaceholder p.2.content) ∧
      (found.2.files.ChangesOnly
        (fun _ e => e = some .directory ∨
          ∃ t, e = some (.file (Text.encode t)) ∧ ¬ HoldsPlaceholder t)
        (compile.run w).2.files) ∧
      (∀ files context name page store processed,
        ((processPage files context name page).run store).1.result = .ok processed →
        HoldsPlaceholder processed.content →
          ∃ raw, IsFirstPlaceholder processed.content raw ∧
            ((renderPage files context name page).run store).1.result =
              .error (.unresolvedVariable name raw)) ∧
      ∀ before name after staticFiles page,
        found.1.result = .ok (before ++ name :: after, staticFiles) →
        let reached := (writePages destination before).run found.2
        ((process name).run reached.2).1.result = .ok page → HoldsPlaceholder page.content →
          ∃ raw, IsFirstPlaceholder page.content raw ∧
            ((render name).run reached.2).1.result = .error (.unresolvedVariable name raw) ∧
            (reached.1.result = .ok () →
              (compile.run w).1.result = .error (.unresolvedVariable name raw)) ∧
            (∀ p ∈ written, p.1 ∉ name :: after) ∧
            (compile.run w).2.files = reached.2.files := by
  intro destination found written
  have hfiles := files_compile w
  have hfree : ∀ p ∈ written, ¬ HoldsPlaceholder p.2.content :=
    fun p hp => not_holds_of_mem_writtenPages hp
  refine ⟨hfiles, hfree, ?_, ?_, ?_⟩
  · rw [hfiles]
    refine (changesOnly_writeEach destination (written.map Prod.snd) found.2.files).mono ?_
    rintro l e (rfl | ⟨page, hpage, rfl⟩)
    · exact .inl rfl
    · obtain ⟨p, hp, rfl⟩ := List.mem_map.mp hpage
      exact .inr ⟨_, rfl, hfree p hp⟩
  · intro files context name page store processed
    exact result_renderPage_of_holds
  · intro before name after staticFiles page hfound reached hprocess hholds
    obtain ⟨raw, hfirst, hrender⟩ := result_render_of_holds hprocess hholds
    exact ⟨raw, hfirst, hrender, compile_of_error hfound hrender⟩

/-- The first of two pages has a variable that nothing defines: neither of them is written. -/
theorem compile_stops_at_undefined_variable :
    let page : Page := { template := "t".toList, url := "index.html".toList }
    let w : Workspace :=
      { files := FileSystem.empty.put ["s".toList] .directory
        site :=
          { source := "s".toList, destination := "out".toList, production := false, layout := {},
            convert := id, expansions := 0, globals? := some ∅
            templates := ⟨"s/templates".toList, "html".toList, .ofList [("t".toList, "@{x}".toList)]⟩
            pages? := some (.ofList [("a".toList, page), ("b".toList, page)]) } }
    (∃ raw, (compile.run w).1.result = .error (.unresolvedVariable "a".toList raw)) ∧
      ∀ p ∈ writtenPages w, p.1 ∉ ["a".toList, "b".toList] := by
  intro page w
  obtain ⟨-, -, -, -, hrefused⟩ := compile_writes_no_placeholder w
  have hholds : HoldsPlaceholder "@{x}".toList :=
    ⟨[], _, [], rfl, '@', ['x'], .inr (.inl rfl), by simp, rfl⟩
  obtain ⟨raw, -, -, hresult, hnone, -⟩ :=
    hrefused [] "a".toList ["b".toList] 0 ⟨"index.html".toList, "@{x}".toList⟩ rfl rfl hholds
  exact ⟨⟨raw, hresult rfl⟩, hnone⟩

end Site

end StaticSite
