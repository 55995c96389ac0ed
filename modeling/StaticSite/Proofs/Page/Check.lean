import StaticSite.Page.Render
import StaticSite.Proofs.Placeholder.Grammar

/-!
# The check of a rendered page

Rendering a page is processing it and then looking through its text (`renderPage_eq`). The check is
exact: a processed page passes if its text holds no placeholder, and is refused for the first one
that it holds otherwise (`result_checkPage_of_holds`).
-/

namespace StaticSite

/-- The text of a page with all values filled in, before it is looked through for what is left. -/
def processTemplate (context : RenderContext) (name : Text) (page : Page) (template : Text) :
    Outcome Text := do
  let listed ← expandLists context.expansions context.pages (fillVariables page.bindings template)
  let settled ← Outcome.ofExcept (page.settleFields name listed)
  pure (fillVariables context.globals settled)

/-- A page in the form that is looked through for what is left. -/
def processPage (files : FileSystem) (context : RenderContext) (name : Text) (page : Page) :
    Stage TemplateStore RenderedPage := do
  let template ← TemplateStore.expand files page.template
  let content ← Stage.lift (processTemplate context name page template)
  pure ⟨page.outputPath, content⟩

/-- The page, if there is nothing left in its text. -/
def checkPage (name : Text) (page : RenderedPage) : Outcome RenderedPage := do
  Outcome.ofExcept (checkFilled name page.content)
  pure page

theorem fillTemplate_eq (context : RenderContext) (name : Text) (page : Page) (template : Text) :
    fillTemplate context name page template =
      (processTemplate context name page template).andThen fun t =>
        (Outcome.ofExcept (checkFilled name t)).andThen fun _ => .ok t := by
  simp only [fillTemplate, processTemplate, Outcome.bind_eq, Outcome.pure_eq, Outcome.andThen_assoc,
    Outcome.ok_andThen]

/-- Rendering is processing and then checking. -/
theorem renderPage_eq (files : FileSystem) (context : RenderContext) (name : Text) (page : Page) :
    renderPage files context name page =
      processPage files context name page >>= fun processed =>
        Stage.lift (checkPage name processed) := by
  have hlift : ∀ content, (Stage.lift (checkPage name ⟨page.outputPath, content⟩) :
      Stage TemplateStore RenderedPage) =
        Stage.lift (Outcome.ofExcept (checkFilled name content)) >>= fun _ =>
          pure ⟨page.outputPath, content⟩ :=
    fun content => Stage.lift_andThen _ _
  simp only [renderPage, processPage, fillTemplate_eq, Stage.lift_andThen, bind_assoc, pure_bind,
    hlift]
  rfl

theorem result_checkPage_eq_ok_iff {name : Text} {page checked : RenderedPage} :
    (checkPage name page).result = .ok checked ↔
      checked = page ∧ ¬ HoldsPlaceholder page.content := by
  unfold checkPage checkFilled
  cases hfirst : firstPlaceholder? page.content with
  | none =>
    have hfree := firstPlaceholder?_eq_none_iff.mp hfirst
    show Except.ok page = .ok checked ↔ _
    simp [hfree, eq_comm]
  | some raw =>
    have hholds : HoldsPlaceholder page.content := (isFirst_of_firstPlaceholder? hfirst).holds
    show Except.error _ = .ok checked ↔ _
    simp [hholds]

theorem result_checkPage_of_holds {page : RenderedPage} (h : HoldsPlaceholder page.content)
    (name : Text) : ∃ raw, IsFirstPlaceholder page.content raw ∧
      (checkPage name page).result = .error (.unresolvedVariable name raw) := by
  cases hfirst : firstPlaceholder? page.content with
  | none => exact absurd h (firstPlaceholder?_eq_none_iff.mp hfirst)
  | some raw =>
    refine ⟨raw, isFirst_of_firstPlaceholder? hfirst, ?_⟩
    unfold checkPage checkFilled
    rw [hfirst]
    rfl

/-- A page whose processed text holds a placeholder is refused for the first one. -/
theorem result_renderPage_of_holds {files : FileSystem} {context : RenderContext} {name : Text}
    {page : Page} {store : TemplateStore} {processed : RenderedPage}
    (h : ((processPage files context name page).run store).1.result = .ok processed)
    (hholds : HoldsPlaceholder processed.content) :
    ∃ raw, IsFirstPlaceholder processed.content raw ∧
      ((renderPage files context name page).run store).1.result =
        .error (.unresolvedVariable name raw) := by
  obtain ⟨raw, hfirst, hchecked⟩ := result_checkPage_of_holds hholds name
  refine ⟨raw, hfirst, ?_⟩
  rw [renderPage_eq, Stage.result_bind, h]
  exact hchecked

end StaticSite
