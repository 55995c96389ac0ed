import StaticSite.Proofs.Site.Calls
import StaticSite.Proofs.Template.Store

/-!
# Calls in any order

While the files stay as they are, what a site knows is what it would read anew. So no call can tell
what was asked before it: after any calls, a page is rendered as on a new site
(`result_render_after`).

The invariant is that all that is known is `Current`. It holds of a new site, each call keeps it,
and two sites that have it for the same files and settings render alike.
-/

namespace StaticSite

open TemplateStore (Sound)

/-! ## Rendering from a sound store -/

section Sound

variable {files : FileSystem} {path : Text → Path} {store other : TemplateStore}

/-- Two sound stores cannot be told apart. -/
theorem TemplateStore.Sound.result_expand_eq (h : Sound files path store)
    (hother : Sound files path other) (name : Text) :
    ((TemplateStore.expand files name).run store).1.result =
      ((TemplateStore.expand files name).run other).1.result :=
  (TemplateStore.result_expand_eq_iff h name _).mpr
    ((TemplateStore.result_expand_eq_iff hother name _).mp rfl)

variable (context : RenderContext) (name : Text) (page : Page)

theorem result_renderPage_eq (h : Sound files path store) (hother : Sound files path other) :
    ((renderPage files context name page).run store).1.result =
      ((renderPage files context name page).run other).1.result := by
  unfold renderPage
  rw [Stage.result_bind, Stage.result_bind, h.result_expand_eq hother]
  simp only [Stage.result_bind, Stage.run_lift, Stage.run_pure]

theorem sound_renderPage (h : Sound files path store) :
    Sound files path ((renderPage files context name page).run store).2 := by
  have hexpanded := (TemplateStore.agrees_expand h page.template).sound
  unfold renderPage
  rw [Stage.state_bind]
  cases ((TemplateStore.expand files page.template).run store).1.result with
  | error e => exact hexpanded
  | ok template =>
    simp only [Stage.state_bind, Stage.run_lift, Stage.run_pure]
    cases (fillTemplate context name page template).result <;> exact hexpanded

end Sound

namespace Site

/-! ## What is current -/

/-- What a site knows of something is what it would read anew. -/
def Kept.Current {α : Type} (k : Kept α) (new w : Workspace) : Prop :=
  ∀ a, k.known? w.site = some a → (k.read new.files new.site).result = .ok a

/-- All that a site knows is what it would read anew from the files, with the settings of a new
site. -/
structure Current (new w : Workspace) : Prop where
  /-- The files are those of the new site. -/
  files_eq : w.files = new.files
  /-- The settings are those of the new site. -/
  bare_eq : w.site.bare = new.site.bare
  /-- The pages are those in the page file. -/
  pages : keptPages.Current new w
  /-- The global variables are those in their file. -/
  globals : keptGlobals.Current new w
  /-- The templates are those in the template files. -/
  templates : Sound new.files new.site.templates.path w.site.templates

theorem Current.of_create {files : FileSystem} {settings : BuildSettings} {site : Site}
    (h : (create files settings).result = .ok site) : Current ⟨files, site⟩ ⟨files, site⟩ := by
  obtain ⟨hpages, hglobals, htemplates⟩ := unknown_of_create h
  refine ⟨rfl, rfl, fun pages hsome => ?_, fun globals hsome => ?_, ?_⟩
  · cases hpages.symm.trans hsome
  · cases hglobals.symm.trans hsome
  · show Sound files site.templates.path site.templates
    rw [htemplates]
    exact .of_new files _ _

section Current

variable {new w : Workspace} (h : Current new w)

include h

/-- What a call works with is what is in the file. -/
theorem Current.result_now {α : Type} {k : Kept α} (hread : k.OfSettings) (hk : k.Current new w) :
    (k.now w).result = (k.read new.files new.site).result := by
  unfold Kept.now knownOr
  cases hknown : k.known? w.site with
  | some a => exact (hk a hknown).symm
  | none =>
    show (k.read w.files w.site).result = _
    rw [hread.read_eq h.bare_eq, h.files_eq]

/-- What a call finds is current. -/
theorem Current.of_now {α : Type} {k : Kept α} (hread : k.OfSettings) (hk : k.Current new w)
    {w' : Workspace} {looked : Bool}
    (hknown : k.known? w'.site = if looked then (k.now w).result.toOption else k.known? w.site) :
    k.Current new w' := by
  intro a hsome
  rw [hknown] at hsome
  split at hsome
  · rw [← h.result_now hread hk]
    exact eq_ok_of_toOption hsome
  · exact hk a hsome

theorem Current.sound_renderedWith (name : Text) (pages : PageSet) (globals : Bindings) :
    Sound new.files new.site.templates.path (renderedWith name pages globals w).2 := by
  unfold renderedWith
  cases pages.find? name with
  | none => exact h.templates
  | some page =>
    rw [h.files_eq]
    exact sound_renderPage _ name page h.templates

/-- With given pages and global variables, a site renders as any other one that is current. -/
theorem Current.result_renderedWith {other : Workspace} (hother : Current new other) (name : Text)
    (pages : PageSet) (globals : Bindings) :
    (renderedWith name pages globals w).1.result =
      (renderedWith name pages globals other).1.result := by
  have hbare : w.site.bare = other.site.bare := h.bare_eq.trans hother.bare_eq.symm
  have hexpansions : w.site.expansions = other.site.expansions := congrArg (·.expansions) hbare
  unfold renderedWith
  cases pages.find? name with
  | none => rfl
  | some page =>
    rw [h.files_eq, hother.files_eq, hexpansions]
    exact result_renderPage_eq _ name page h.templates hother.templates

/-- A page is rendered as on any other site that is current. -/
theorem Current.result_render {other : Workspace} (hother : Current new other) (name : Text) :
    ((render name).run w).1.result = ((render name).run other).1.result := by
  have hpages : (keptPages.now w).result = (keptPages.now other).result :=
    (h.result_now ofSettings_keptPages h.pages).trans
      (hother.result_now ofSettings_keptPages hother.pages).symm
  have hglobals : (keptGlobals.now w).result = (keptGlobals.now other).result :=
    (h.result_now ofSettings_keptGlobals h.globals).trans
      (hother.result_now ofSettings_keptGlobals hother.globals).symm
  rw [run_render, run_render]
  simp only [loadNow, Outcome.result_andThen, hpages, hglobals, h.result_renderedWith hother]

/-! ## One call -/

theorem Current.sound_after (c : Call) :
    Sound new.files new.site.templates.path (c.after w).site.templates := by
  cases c with
  | pages =>
    rw [Call.after, Site.pages, Kept.run_ask]
    exact h.templates
  | globals =>
    rw [Call.after, Site.globals, Kept.run_ask]
    exact h.templates
  | render name =>
    rw [Call.after, run_render]
    show Sound _ _ (templatesAfterRender name w)
    unfold templatesAfterRender
    cases (loadNow w).result with
    | error e => exact h.templates
    | ok loaded => exact h.sound_renderedWith name loaded.1 loaded.2
  | template name =>
    show Sound _ _ ((TemplateStore.expand w.files name).run w.site.templates).2
    rw [h.files_eq]
    exact (TemplateStore.agrees_expand h.templates name).sound

/-- A call keeps current what is known. -/
theorem Current.call (c : Call) : Current new (c.after w) where
  files_eq := (c.files_after w).trans h.files_eq
  bare_eq := (c.bare_after w).trans h.bare_eq
  pages := h.of_now ofSettings_keptPages h.pages (c.pages?_after w)
  globals := h.of_now ofSettings_keptGlobals h.globals (c.globals?_after w)
  templates := h.sound_after c

end Current

/-! ## Any calls -/

/-- The workspace after some calls. -/
def afterCalls (calls : List Call) (w : Workspace) : Workspace :=
  calls.foldl (fun w c => c.after w) w

/-- What comes of rendering some pages one after the other. -/
def renderEach : List Text → Workspace → List (Except BuildError RenderedPage)
  | [], _ => []
  | name :: names, w =>
    ((render name).run w).1.result :: renderEach names ((Call.render name).after w)

theorem Current.calls {new w : Workspace} (h : Current new w) (calls : List Call) :
    Current new (afterCalls calls w) := by
  induction calls generalizing w with
  | nil => exact h
  | cons c calls ih => exact ih (h.call c)

theorem Current.renderEach_eq {new w : Workspace} (hnew : Current new new) (h : Current new w)
    (names : List Text) :
    renderEach names w = names.map fun name => ((render name).run new).1.result := by
  induction names generalizing w with
  | nil => rfl
  | cons name names ih =>
    rw [renderEach, List.map_cons, h.result_render hnew, ih (h.call (.render name))]

/-- After any calls, a site renders each page as a new site does for the files, which are the same
as before. So pages can be rendered in any order and any number of times. -/
theorem result_render_after {files : FileSystem} {settings : BuildSettings} {site : Site}
    (h : (create files settings).result = .ok site) (calls : List Call) :
    let new : Workspace := ⟨files, site⟩
    let w := afterCalls calls new
    w.files = files ∧
      (∀ name, ((render name).run w).1.result = ((render name).run new).1.result) ∧
      ∀ names, renderEach names w = names.map fun name => ((render name).run new).1.result := by
  intro new w
  have hnew : Current new new := .of_create h
  have hw : Current new w := hnew.calls calls
  exact ⟨hw.files_eq, fun name => hw.result_render hnew name, hnew.renderEach_eq hw⟩

/-- A site with one page, after calls that fail and one that does not. -/
theorem result_render_after_failures :
    let root := FileSystem.empty.put ["s".toList] .directory
    let files := (((root.put ["s".toList, "pages.spec".toList]
          (.file (Text.encode "[a]\ntemplate: t".toList))).put
        ["s".toList, "globals.spec".toList] (.file (Text.encode "x: Hi".toList))).put
        ["s".toList, "templates".toList] .directory).put
        ["s".toList, "templates".toList, "t.html".toList] (.file (Text.encode "@{x}".toList))
    let settings : BuildSettings :=
      { source := "s".toList, layout := some {}, convert := some id }
    let calls := [.template "u".toList, .render "b".toList, .render "a".toList]
    ∃ site, (create files settings).result = .ok site ∧
      ∀ name, ((render name).run (afterCalls calls ⟨files, site⟩)).1.result =
        ((render name).run ⟨files, site⟩).1.result := by
  intro root files settings calls
  have hcreate : (create files settings).result = .ok _ := rfl
  obtain ⟨-, hrender, -⟩ := result_render_after hcreate calls
  exact ⟨_, hcreate, hrender⟩

end Site

end StaticSite
