import StaticSite.Site.Basic

/-!
# What a call works with

A site keeps its pages and its global variables once they are read. To work with them, a call takes
them out of the site and puts them back, on several ways out. One equation for each call says what
comes of that: the call works with what is known, or else with what is in the file now
(`Kept.now`), and what it finds is known afterwards (`Kept.run_ask`, `run_load`, `run_render`).
-/

namespace StaticSite

namespace Site

/-- What is known, or else what comes of a step. -/
def knownOr {α : Type} (known? : Option α) (x : Outcome α) : Outcome α :=
  match known? with
  | some a => .ok a
  | none => x

theorem toOption_knownOr {α : Type} (known? : Option α) (x : Outcome α) :
    (knownOr known? x).result.toOption = known?.or x.result.toOption := by
  cases known? <;> rfl

theorem eq_ok_of_toOption {α : Type} {x : Except BuildError α} {a : α}
    (h : x.toOption = some a) : x = .ok a := by
  cases x with
  | error e => cases h
  | ok b => exact congrArg _ (Option.some.inj h)

namespace Kept

variable {α : Type} (k : Kept α)

/-- What a call works with: what is known, or else what is in the file now. -/
def now (w : Workspace) : Outcome α :=
  knownOr (k.known? w.site) (k.read w.files w.site)

/-- The workspace after a call has looked for it: what was found is known. -/
def look (w : Workspace) : Workspace :=
  { w with site := k.put (k.now w).result.toOption w.site }

theorem run_take (w : Workspace) :
    k.take.run w = (k.now w, { w with site := k.put none w.site }) := by
  unfold take now knownOr
  rw [Stage.run_get_bind, Stage.run_modify_bind]
  cases k.known? w.site <;> rfl

theorem keep_put (w : Workspace) (known? : Option α) (a : α) :
    k.keep a { w with site := k.put known? w.site } = k.keep a w := by
  unfold keep
  rw [k.put_put]

theorem run_ask (w : Workspace) : k.ask.run w = (k.now w, k.look w) := by
  unfold ask look
  refine Prod.ext ?_ ?_
  · rw [Stage.outcome_bind, run_take]
    exact Outcome.andThen_ok _
  · rw [Stage.state_bind, run_take]
    cases (k.now w).result with
    | error e => rfl
    | ok a => exact k.keep_put w none a

end Kept

/-! ## Both -/

/-- The workspace with other things known to the site. -/
def know (templates : TemplateStore) (pages? : Option PageSet) (globals? : Option Bindings)
    (w : Workspace) : Workspace :=
  { w with site := { w.site with templates, pages?, globals? } }

/-- What a call that needs both works with. The global variables are not looked for when there are
no pages. -/
def loadNow (w : Workspace) : Outcome (PageSet × Bindings) :=
  (keptPages.now w).andThen fun pages =>
    (keptGlobals.now w).andThen fun globals => .ok (pages, globals)

/-- The global variables that are known after both were looked for. -/
def globalsAfterLoad (w : Workspace) : Option Bindings :=
  match (keptPages.now w).result with
  | .error _ => w.site.globals?
  | .ok _ => (keptGlobals.now w).result.toOption

/-- What was found is known afterwards, also when the other one is missing. -/
theorem run_load (w : Workspace) :
    load.run w =
      (loadNow w,
        know w.site.templates (keptPages.now w).result.toOption (globalsAfterLoad w) w) := by
  -- the pages are taken out while the global variables are looked for, which makes no difference
  have hnow : ∀ pages?, keptGlobals.now { w with site := keptPages.put pages? w.site } =
      keptGlobals.now w := fun _ => rfl
  unfold load
  refine Prod.ext ?_ ?_
  · rw [Stage.outcome_bind, Kept.run_take]
    simp only [Stage.outcome_bind, Stage.run_onFailure, Kept.run_take, hnow]
    rfl
  · rw [Stage.state_bind, Kept.run_take]
    unfold globalsAfterLoad
    cases (keptPages.now w).result with
    | error e => rfl
    | ok pages =>
      simp only [Stage.state_bind, Stage.run_onFailure, Kept.run_take, hnow]
      cases (keptGlobals.now w).result <;> rfl

/-! ## Rendering -/

/-- What comes of rendering a page with given pages and global variables, and the templates after
it. -/
def renderedWith (name : Text) (pages : PageSet) (globals : Bindings) (w : Workspace) :
    Outcome RenderedPage × TemplateStore :=
  match pages.find? name with
  | none => (.fail (.pageNotFound name), w.site.templates)
  | some page =>
    (renderPage w.files { pages, globals, expansions := w.site.expansions } name page).run
      w.site.templates

/-- The templates after a page of the site was rendered. -/
def templatesAfterRender (name : Text) (w : Workspace) : TemplateStore :=
  match (loadNow w).result with
  | .error _ => w.site.templates
  | .ok (pages, globals) => (renderedWith name pages globals w).2

theorem run_renderLoaded (name : Text) (pages : PageSet) (globals : Bindings) (w : Workspace) :
    (renderLoaded name pages globals).run w =
      ((renderedWith name pages globals w).1,
        know (renderedWith name pages globals w).2 w.site.pages? w.site.globals? w) := by
  unfold renderLoaded renderedWith
  cases pages.find? name <;> rfl

theorem run_render (name : Text) (w : Workspace) :
    (render name).run w =
      ((loadNow w).andThen fun loaded => (renderedWith name loaded.1 loaded.2 w).1,
        know (templatesAfterRender name w) (keptPages.now w).result.toOption
          (globalsAfterLoad w) w) := by
  unfold render
  refine Prod.ext ?_ ?_
  · rw [Stage.outcome_bind, run_load]
    simp only [run_renderLoaded]
    rfl
  · rw [Stage.state_bind, run_load]
    simp only [run_renderLoaded]
    unfold templatesAfterRender
    cases (loadNow w).result <;> rfl

end Site

end StaticSite
