import StaticSite.Proofs.Site.Frame
import StaticSite.Proofs.Template.Growth

/-!
# Compiling again

A site never forgets what it knows (`knows_render`), and what it knows after it has rendered a page
is all that the page needs: it is rendered to the same text from then on, whatever the files are
(`render_of_knows`). So a site that has been compiled is compiled to the same pages again
(`compile_of_knows`).
-/

namespace StaticSite

namespace Site

/-- A site has the settings of an earlier one, and knows all that it did. -/
structure Knows (site later : Site) : Prop where
  /-- The settings are the same. -/
  bare_eq : later.bare = site.bare
  /-- The pages are still known. -/
  pages : ∀ found, site.pages? = some found → later.pages? = some found
  /-- The global variables are still known. -/
  globals : ∀ found, site.globals? = some found → later.globals? = some found
  /-- The templates are still remembered. -/
  templates : TemplateStore.Knows site.templates later.templates

theorem Knows.refl (site : Site) : Knows site site :=
  ⟨rfl, fun _ => id, fun _ => id, .refl _⟩

theorem Knows.trans {site later last : Site} (h : Knows site later) (h' : Knows later last) :
    Knows site last where
  bare_eq := h'.bare_eq.trans h.bare_eq
  pages found hfound := h'.pages found (h.pages found hfound)
  globals found hfound := h'.globals found (h.globals found hfound)
  templates := .trans _ _ _ h.templates h'.templates

/-! ## Rendering -/

section RenderPage

variable {files : FileSystem} {context : RenderContext} {name : Text} {page : Page}
  {store later : TemplateStore}

theorem state_renderPage :
    ((renderPage files context name page).run store).2 =
      ((TemplateStore.expand files page.template).run store).2 := by
  unfold renderPage
  rw [Stage.state_bind]
  cases ((TemplateStore.expand files page.template).run store).1.result with
  | error e => rfl
  | ok template =>
    dsimp only
    rw [Stage.state_bind]
    split <;> rfl

theorem result_renderPage_of_knows {rendered : RenderedPage}
    (hok : ((renderPage files context name page).run store).1.result = .ok rendered)
    (h : TemplateStore.Knows ((renderPage files context name page).run store).2 later)
    (other : FileSystem) :
    ((renderPage other context name page).run later).1.result = .ok rendered := by
  rw [state_renderPage] at h
  unfold renderPage at hok ⊢
  simp only [Stage.outcome_bind, Outcome.result_andThen_eq_ok_iff] at hok ⊢
  obtain ⟨template, htemplate, content, hcontent, heq⟩ := hok
  exact ⟨template, TemplateStore.result_expand_of_knows htemplate h other, content, hcontent, heq⟩

end RenderPage

section Render

variable {w v : Workspace}

theorem knows_renderedWith (name : Text) (pages : PageSet) (globals : Bindings) :
    TemplateStore.Knows w.site.templates (renderedWith name pages globals w).2 := by
  unfold renderedWith
  cases pages.find? name with
  | none => exact .refl _
  | some page =>
    dsimp only
    rw [state_renderPage]
    exact (TemplateStore.remembers_expand w.files page.template w.site.templates).knows

/-- Rendering forgets nothing, whether it succeeds or not. -/
theorem knows_render (name : Text) (w : Workspace) :
    Knows w.site ((render name).run w).2.site := by
  refine ⟨(Call.render name).bare_after w, fun found hfound => ?_, fun found hfound => ?_, ?_⟩
  · have hnow : keptPages.now w = .ok found := Kept.now_of_known hfound
    rw [run_render, hnow]
    rfl
  · have hnow : keptGlobals.now w = .ok found := Kept.now_of_known hfound
    rw [run_render]
    show globalsAfterLoad w = some found
    unfold globalsAfterLoad
    rw [hnow]
    cases (keptPages.now w).result with
    | error e => exact hfound
    | ok pages => rfl
  · rw [run_render]
    show TemplateStore.Knows _ (templatesAfterRender name w)
    unfold templatesAfterRender
    cases (loadNow w).result with
    | error e => exact .refl _
    | ok loaded => exact knows_renderedWith name loaded.1 loaded.2

/-- With what was found, a page is rendered to the same text when as much is known. -/
theorem result_renderedWith_of_knows {name : Text} {pages : PageSet} {globals : Bindings}
    {rendered : RenderedPage}
    (hok : (renderedWith name pages globals w).1.result = .ok rendered)
    (hexpansions : v.site.expansions = w.site.expansions)
    (h : TemplateStore.Knows (renderedWith name pages globals w).2 v.site.templates) :
    (renderedWith name pages globals v).1.result = .ok rendered := by
  unfold renderedWith at hok h ⊢
  cases hfind : pages.find? name with
  | none =>
    rw [hfind] at hok
    cases hok
  | some page =>
    rw [hfind] at hok h
    dsimp only at hok h ⊢
    rw [hexpansions]
    exact result_renderPage_of_knows hok h v.files

/-- What was found is found again when as much is known. -/
theorem loadNow_of_knows {name : Text} {loaded : PageSet × Bindings}
    (hok : (loadNow w).result = .ok loaded) (h : Knows ((render name).run w).2.site v.site) :
    loadNow v = .ok loaded := by
  unfold loadNow at hok
  simp only [Outcome.result_andThen_eq_ok_iff] at hok
  obtain ⟨pages, hpages, globals, hglobals, heq⟩ := hok
  cases heq
  have hpagesNow : keptPages.now v = .ok pages := by
    refine Kept.now_of_known (h.pages pages ?_)
    rw [run_render]
    show (keptPages.now w).result.toOption = some pages
    rw [hpages]
    rfl
  have hglobalsNow : keptGlobals.now v = .ok globals := by
    refine Kept.now_of_known (h.globals globals ?_)
    rw [run_render]
    show globalsAfterLoad w = some globals
    unfold globalsAfterLoad
    rw [hpages, hglobals]
    rfl
  unfold loadNow
  rw [hpagesNow, hglobalsNow]
  rfl

/-- A page that was rendered is rendered to the same text by a site that knows what was known
afterwards. -/
theorem render_of_knows {name : Text} {rendered : RenderedPage}
    (hok : ((render name).run w).1.result = .ok rendered)
    (h : Knows ((render name).run w).2.site v.site) :
    ((render name).run v).1.result = .ok rendered := by
  have hexpansions : v.site.expansions = w.site.expansions :=
    congrArg (·.expansions) (h.bare_eq.trans ((Call.render name).bare_after w))
  have htemplates : TemplateStore.Knows (templatesAfterRender name w) v.site.templates := by
    have hafter := h.templates
    rw [run_render] at hafter
    exact hafter
  rw [run_render, Outcome.result_andThen_eq_ok_iff] at hok
  obtain ⟨⟨pages, globals⟩, hloaded, hrendered⟩ := hok
  unfold templatesAfterRender at htemplates
  rw [hloaded] at htemplates
  rw [run_render, loadNow_of_knows hloaded h]
  exact result_renderedWith_of_knows hrendered hexpansions htemplates

end Render

/-! ## The loop over the pages -/

section Loop

variable {destination : Path} {names : List Text} {w v : Workspace}

theorem knows_writeNamed (destination : Path) (name : Text) (w : Workspace) :
    Knows w.site ((writeNamed destination name).run w).2.site := by
  rw [site_writeNamed]
  exact knows_render name w

theorem knows_writePages (destination : Path) (names : List Text) (w : Workspace) :
    Knows w.site ((writePages destination names).run w).2.site := by
  induction names generalizing w with
  | nil => exact .refl w.site
  | cons name names ih =>
    have hfirst := knows_writeNamed destination name w
    rw [writePages_cons, Stage.state_bind]
    cases ((writeNamed destination name).run w).1.result with
    | error e => exact hfirst
    | ok done => exact hfirst.trans (ih _)

/-- The pages that were handed over can be rendered to the same texts by a site that knows what was
known at the end. -/
theorem render_of_mem_handedPages
    (h : Knows ((writePages destination names).run w).2.site v.site) {p : Text × RenderedPage}
    (hp : p ∈ handedPages destination names w) :
    ((render p.1).run v).1.result = .ok p.2 := by
  induction names generalizing w with
  | nil => cases hp
  | cons name names ih =>
    rw [writePages_cons, Stage.state_bind] at h
    rw [handedPages] at hp
    cases hrender : ((render name).run w).1.result with
    | error e =>
      rw [hrender] at hp
      cases hp
    | ok rendered =>
      rw [hrender] at hp
      have hsite := site_writeNamed destination name w
      cases hresult : ((writeNamed destination name).run w).1.result with
      | error e =>
        rw [hresult] at hp h
        obtain rfl : p = (name, rendered) := List.mem_singleton.mp hp
        dsimp only at h
        rw [hsite] at h
        exact render_of_knows hrender h
      | ok done =>
        rw [hresult] at hp h
        rcases List.mem_cons.mp hp with rfl | hlater
        · have hrest := knows_writePages destination names ((writeNamed destination name).run w).2
          rw [hsite] at hrest
          exact render_of_knows hrender (hrest.trans h)
        · exact ih h hlater

theorem map_fst_handedPages (hok : ((writePages destination names).run w).1.result = .ok ()) :
    (handedPages destination names w).map Prod.fst = names := by
  induction names generalizing w with
  | nil => rfl
  | cons name names ih =>
    rw [writePages_cons] at hok
    simp only [Stage.outcome_bind, Outcome.result_andThen_eq_ok_iff] at hok
    obtain ⟨_, hfirst, hrest⟩ := hok
    rw [handedPages]
    cases hrender : ((render name).run w).1.result with
    | error e =>
      rw [(writeNamed_of_error destination hrender).1] at hfirst
      cases hfirst
    | ok rendered =>
      rw [hfirst]
      exact congrArg (name :: ·) (ih hrest)

/-- The loop comes to the same when as much is known as at its end. -/
theorem writePages_of_knows (hfiles : v.files = w.files)
    (hok : ((writePages destination names).run w).1.result = .ok ())
    (h : Knows ((writePages destination names).run w).2.site v.site) :
    ((writePages destination names).run v).1.result = .ok () ∧
      ((writePages destination names).run v).2.files =
        ((writePages destination names).run w).2.files := by
  induction names generalizing w v with
  | nil => exact ⟨rfl, hfiles⟩
  | cons name names ih =>
    have hrendered : ∃ rendered, ((render name).run w).1.result = .ok rendered ∧
        ((render name).run v).1.result = .ok rendered := by
      cases hrender : ((render name).run w).1.result with
      | error e =>
        rw [writePages_cons, Stage.result_bind, (writeNamed_of_error destination hrender).1] at hok
        cases hok
      | ok rendered =>
        refine ⟨rendered, rfl, ?_⟩
        have hmem : (name, rendered) ∈ handedPages destination (name :: names) w := by
          rw [handedPages, hrender]
          exact List.mem_cons_self
        exact render_of_mem_handedPages h hmem
    obtain ⟨rendered, hrender, hrenderAgain⟩ := hrendered
    obtain ⟨hresult, hwritten⟩ := writeNamed_of_ok destination hrender
    obtain ⟨hresultAgain, hwrittenAgain⟩ := writeNamed_of_ok destination hrenderAgain
    rw [hfiles] at hresultAgain hwrittenAgain
    rw [writePages_cons] at hok h ⊢
    simp only [Stage.result_bind, Stage.state_bind] at hok h ⊢
    rw [hresultAgain, ← hresult]
    cases hfirst : ((writeNamed destination name).run w).1.result with
    | error e =>
      rw [hfirst] at hok
      cases hok
    | ok done =>
      rw [hfirst] at hok h
      refine ih (hwrittenAgain.trans hwritten.symm) hok (h.trans ?_)
      exact knows_writeNamed destination name v

end Loop

/-! ## A compilation -/

section Compile

variable {w v : Workspace}

theorem knows_look (w : Workspace) : Knows w.site (keptPages.look w).site := by
  refine ⟨rfl, fun found hfound => ?_, fun _ => id, .refl _⟩
  show (keptPages.now w).result.toOption = some found
  rw [Kept.now_of_known (k := keptPages) hfound]
  rfl

/-- What is laid depends on the settings alone. -/
theorem layStatic_bare (site : Site) : layStatic site.bare = layStatic site := rfl

/-- What a compilation leaves when it has come to the pages. -/
theorem state_compile {found : List Text × Nat}
    (hbefore : ((beforePages w.site).run w).1.result = .ok found) :
    (compile.run w).2 =
      ((writePages w.site.destination found.1).run ((beforePages w.site).run w).2).2 := by
  rw [run_compile]
  simp only [Stage.state_bind, hbefore]
  cases ((writePages w.site.destination found.1).run ((beforePages w.site).run w).2).1.result <;>
    rfl

theorem result_compile_of_ok {found : List Text × Nat}
    (hbefore : ((beforePages w.site).run w).1.result = .ok found)
    (hwritten : ((writePages w.site.destination found.1).run
      ((beforePages w.site).run w).2).1.result = .ok ()) :
    (compile.run w).1.result = .ok ⟨found.1.length, found.2⟩ := by
  rw [run_compile]
  simp only [Stage.result_bind, hbefore, hwritten, Except.bind]
  rfl

/-- What a compilation went through if it succeeded. -/
theorem of_compile {summary : BuildSummary} (h : (compile.run w).1.result = .ok summary) :
    ∃ found n,
      ((layStatic w.site).run w.files).1.result = .ok n ∧
      (keptPages.now (laid w)).result = .ok found ∧
      ((beforePages w.site).run w).1.result = .ok (found.keys, n) ∧
      ((writePages w.site.destination found.keys).run
        ((beforePages w.site).run w).2).1.result = .ok () ∧
      summary = ⟨found.keys.length, n⟩ := by
  rw [run_compile] at h
  simp only [Stage.outcome_bind, Outcome.result_andThen_eq_ok_iff] at h
  obtain ⟨⟨names, n⟩, hbefore, _, hwritten, -, -, hsummary⟩ := h
  cases hsummary
  obtain ⟨found, rfl, hlaid, hnow, -⟩ := of_beforePages hbefore
  exact ⟨found, n, hlaid, hnow, hbefore, hwritten, rfl⟩

/-- A new compilation by a site that knows what was known at the end of the first one, over files
in which the static files are laid as they were then. -/
theorem compile_of_knows {summary : BuildSummary} {n : Nat}
    (hok : (compile.run w).1.result = .ok summary)
    (hlaid : ((layStatic w.site).run w.files).1.result = .ok n)
    (hagain : ((layStatic w.site).run v.files).1.result = .ok n)
    (hfiles : ((layStatic w.site).run v.files).2 = ((layStatic w.site).run w.files).2)
    (h : Knows (compile.run w).2.site v.site) :
    (compile.run v).1.result = .ok summary ∧ (compile.run v).2.files = (compile.run w).2.files := by
  obtain ⟨found, m, hlaid', hnow, hbefore, hwritten, rfl⟩ := of_compile hok
  cases hlaid.symm.trans hlaid'
  rw [state_compile hbefore] at h ⊢
  have hstart : ((beforePages w.site).run w).2 = keptPages.look (laid w) :=
    (beforePages_of_ok hlaid).2
  have hknown : ((beforePages w.site).run w).2.site.pages? = some found := by
    rw [hstart]
    show (keptPages.now (laid w)).result.toOption = some found
    rw [hnow]
    rfl
  have hwhole : Knows ((beforePages w.site).run w).2.site v.site :=
    (knows_writePages _ _ _).trans h
  have hbare : v.site.bare = w.site.bare := by
    rw [hwhole.bare_eq, hstart]
    rfl
  have hsame : layStatic v.site = layStatic w.site := by
    rw [← layStatic_bare v.site, hbare, layStatic_bare]
  have hdestination : v.site.destination = w.site.destination := congrArg (·.destination) hbare
  have hnowAgain : keptPages.now (laid v) = .ok found :=
    Kept.now_of_known (hwhole.pages found hknown)
  rw [← hsame] at hagain
  obtain ⟨hresultAgain, hstartAgain⟩ := beforePages_of_ok hagain
  rw [hnowAgain] at hresultAgain
  have hlaidFiles :
      ((beforePages v.site).run v).2.files = ((beforePages w.site).run w).2.files := by
    rw [hstart, hstartAgain]
    show ((layStatic v.site).run v.files).2 = ((layStatic w.site).run w.files).2
    rw [hsame, hfiles]
  have hsite : Knows v.site ((beforePages v.site).run v).2.site := by
    rw [hstartAgain]
    exact knows_look (laid v)
  rw [← hdestination] at hwritten h ⊢
  obtain ⟨hdone, hfilesAgain⟩ := writePages_of_knows hlaidFiles hwritten (h.trans hsite)
  rw [state_compile hresultAgain]
  exact ⟨result_compile_of_ok hresultAgain hdone, hfilesAgain⟩

/-- A new compilation by the same site, over files in which the static files are laid as they were
before. -/
theorem compile_of_laid_eq {n : Nat} (hsite : v.site = w.site)
    (hlaid : ((layStatic w.site).run w.files).1.result = .ok n)
    (hagain : ((layStatic w.site).run v.files).1.result = .ok n)
    (hfiles : ((layStatic w.site).run v.files).2 = ((layStatic w.site).run w.files).2) :
    (compile.run v).1.result = (compile.run w).1.result ∧
      (compile.run v).2 = (compile.run w).2 := by
  have hsame : laid v = laid w := by
    unfold laid
    rw [hsite, hfiles]
  obtain ⟨hresult, hstate⟩ := beforePages_of_ok hlaid
  rw [← hsite] at hagain
  obtain ⟨hresultAgain, hstateAgain⟩ := beforePages_of_ok hagain
  rw [hsame] at hresultAgain hstateAgain
  rw [run_compile, run_compile, hsite]
  rw [hsite] at hresultAgain hstateAgain
  simp only [Stage.result_bind, Stage.state_bind, hresult, hstate, hresultAgain, hstateAgain,
    and_self]

end Compile

end Site

end StaticSite
