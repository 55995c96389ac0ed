import StaticSite.Proofs.Site.Load

/-!
# Calls on a site

The calls that look at a site without writing anything. A call changes nothing but what the site
knows (`exists_after`), and what it does to the pages and the global variables that are known is
said once (`pages?_after`, `globals?_after`).
-/

namespace StaticSite

namespace Site

/-- A call on a site. -/
inductive Call
  /-- For all pages. -/
  | pages
  /-- For the global variables. -/
  | globals
  /-- For a page in its final form. -/
  | render (name : Text)
  /-- For the expanded text of a template. -/
  | template (name : Text)
  deriving DecidableEq, Repr, Inhabited

/-- The settings of a site, without all that it has come to know. -/
def bare (site : Site) : Site :=
  { site with templates := default, pages? := none, globals? := none }

namespace Kept

variable {α : Type} {k : Kept α}

/-- What is read depends on the files and the settings alone. -/
def OfSettings (k : Kept α) : Prop :=
  ∀ files site, k.read files site.bare = k.read files site

theorem OfSettings.read_eq (h : k.OfSettings) {a b : Site} (hbare : a.bare = b.bare)
    (files : FileSystem) : k.read files a = k.read files b := by
  rw [← h files a, hbare, h files b]

end Kept

theorem ofSettings_keptPages : keptPages.OfSettings := fun _ _ => rfl

theorem ofSettings_keptGlobals : keptGlobals.OfSettings := fun _ _ => rfl

namespace Call

/-- The workspace after a call. -/
def after : Call → Workspace → Workspace
  | pages, w => (Site.pages.run w).2
  | globals, w => (Site.globals.run w).2
  | render name, w => ((Site.render name).run w).2
  | template name, w => ((Site.template name).run w).2

/-- Whether a call works with the pages. -/
def needsPages : Call → Bool
  | pages | render _ => true
  | globals | template _ => false

/-- Whether a call works with the global variables. Rendering does once it has pages. -/
def needsGlobals (hasPages : Bool) : Call → Bool
  | globals => true
  | render _ => hasPages
  | pages | template _ => false

end Call

/-- A new site knows nothing. -/
theorem unknown_of_create {files : FileSystem} {settings : BuildSettings} {site : Site}
    (h : (create files settings).result = .ok site) :
    site.pages? = none ∧ site.globals? = none ∧
      site.templates =
        ⟨site.layout.templatesFolder site.source, site.layout.templateExtension, ∅⟩ := by
  unfold create at h
  split at h
  case isFalse => cases h
  case isTrue =>
    -- the layout of the settings, or that of the layout file
    split at h <;>
    · simp only [Outcome.bind_eq, Outcome.result_andThen_eq_ok_iff] at h
      obtain ⟨layout, -, convert, -, hsite⟩ := h
      cases hsite
      exact ⟨rfl, rfl, rfl⟩

/-! ## What a call changes -/

namespace Call

variable (c : Call) (w : Workspace)

/-- A call changes nothing but what the site knows. -/
theorem exists_after :
    ∃ templates pages? globals?, c.after w = know templates pages? globals? w := by
  cases c with
  | pages => exact ⟨_, _, w.site.globals?, congrArg Prod.snd (keptPages.run_ask w)⟩
  | globals => exact ⟨_, w.site.pages?, _, congrArg Prod.snd (keptGlobals.run_ask w)⟩
  | render name => exact ⟨_, _, _, congrArg Prod.snd (run_render name w)⟩
  | template name => exact ⟨_, w.site.pages?, w.site.globals?, rfl⟩

theorem files_after : (c.after w).files = w.files := by
  obtain ⟨templates, pages?, globals?, hafter⟩ := c.exists_after w
  rw [hafter]
  rfl

theorem bare_after : (c.after w).site.bare = w.site.bare := by
  obtain ⟨templates, pages?, globals?, hafter⟩ := c.exists_after w
  rw [hafter]
  rfl

/-- A call that needs the pages keeps those it finds. -/
theorem pages?_after :
    (c.after w).site.pages? =
      if c.needsPages then (keptPages.now w).result.toOption else w.site.pages? := by
  cases c with
  | pages =>
    rw [after, Site.pages, Kept.run_ask]
    rfl
  | globals =>
    rw [after, Site.globals, Kept.run_ask]
    rfl
  | render name =>
    rw [after, run_render]
    rfl
  | template name => rfl

/-- A call that needs the global variables keeps those it finds. -/
theorem globals?_after :
    (c.after w).site.globals? =
      if c.needsGlobals (keptPages.now w).result.toOption.isSome then
        (keptGlobals.now w).result.toOption
      else w.site.globals? := by
  cases c with
  | pages =>
    rw [after, Site.pages, Kept.run_ask]
    rfl
  | globals =>
    rw [after, Site.globals, Kept.run_ask]
    rfl
  | render name =>
    rw [after, run_render]
    show globalsAfterLoad w = _
    unfold globalsAfterLoad
    cases (keptPages.now w).result <;> rfl
  | template name => rfl

end Call

end Site

end StaticSite
