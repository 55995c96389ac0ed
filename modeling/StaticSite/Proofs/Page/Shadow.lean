import StaticSite.Proofs.Page.Listing
import StaticSite.Proofs.Page.Settle
import StaticSite.Proofs.Placeholder.Grammar
import StaticSite.Page.Render

/-!
# The page's own variables before the global ones

A variable of a page hides the global variable of its name from every text that the page's variables
are filled into: the template, and the text that each round of post fields begins with. The global
variables are filled in last, so they are seen by what came into the text after that: the values of
the last round of post fields, or those of the list blocks if no round was made
(`exists_of_holdsVariable_settled`).
-/

namespace StaticSite

/-- A variable is asked for in a text. -/
def HoldsVariable (x t : Text) : Prop :=
  (⟨.value, x⟩ : Placeholder) ∈ placeholders t

instance (x t : Text) : Decidable (HoldsVariable x t) :=
  inferInstanceAs (Decidable (_ ∈ placeholders t))

/-- Two assignments give the same values to all names but one. -/
def SameExcept (x : Text) (vars others : Bindings) : Prop :=
  ∀ y, y ≠ x → vars.find? y = others.find? y

/-- A well-formed text that does not ask for a variable. -/
abbrev Without (x : Text) (t : Text) : Prop :=
  WellFormedWith (fun q => q ≠ ⟨.value, x⟩) t

theorem without_iff {x t : Text} : Without x t ↔ WellFormed t ∧ ¬ HoldsVariable x t := by
  constructor
  · rintro ⟨hwf, hall⟩
    exact ⟨hwf, fun hmem => hall _ hmem rfl⟩
  · rintro ⟨hwf, hnot⟩
    refine ⟨hwf, ?_⟩
    rintro q hq rfl
    exact hnot hq

theorem Without.not_holdsVariable {x t : Text} (h : Without x t) : ¬ HoldsVariable x t :=
  (without_iff.mp h).2

/-! ## Passes -/

/-- A text that does not ask for a variable is filled in without it. -/
theorem fillVariables_eq_of_sameExcept {x t : Text} {vars others : Bindings}
    (hsame : SameExcept x vars others) (hnot : ¬ HoldsVariable x t) :
    fillVariables vars t = fillVariables others t := by
  refine substitute_congr fun q hq => ?_
  obtain ⟨sigil, y⟩ := q
  cases sigil with
  | template => rfl
  | post => rfl
  | value =>
    have hne : y ≠ x := by
      rintro rfl
      exact hnot hq
    exact hsame y hne

section Passes

variable {x t : Text} {page : Page}

/-- The page's variables leave none of their own names in a text. -/
theorem without_fillVariables {vars : Bindings} (hx : vars.contains x = true) (ht : WellFormed t)
    (hvars : ∀ value ∈ vars.values, Without x value) : Without x (fillVariables vars t) := by
  have hvalue : ∀ q value, variableResolver vars q = some value → Without x value :=
    fun q value h => hvars value (mem_values_of_variableResolver h)
  have hwf : ∀ q value, variableResolver vars q = some value → WellFormed value :=
    fun q value h => (hvalue q value h).wellFormed
  refine ⟨ht.substitute hwf, ?_⟩
  show ∀ q ∈ placeholders (substitute (variableResolver vars) t), _
  rw [ht.placeholders_substitute hwf]
  intro q hq
  obtain ⟨p, -, hq⟩ := List.mem_flatMap.mp hq
  cases hp : variableResolver vars p with
  | some value =>
    rw [hp] at hq
    exact (hvalue p value hp).forall_placeholders q hq
  | none =>
    rw [hp] at hq
    rintro rfl
    rw [← List.mem_singleton.mp hq] at hp
    obtain ⟨value, hfind⟩ := Option.isSome_iff_exists.mp hx
    exact absurd (hp.symm.trans hfind) (by simp)

/-- After a round, what a text asks for came with the post fields of the round. -/
theorem exists_field_of_holdsVariable (hx : page.bindings.contains x = true) (ht : WellFormed t)
    (hvalues : ∀ value ∈ page.values, WellFormed value)
    (hvars : ∀ value ∈ page.bindings.values, Without x value)
    (hholds : HoldsVariable x (page.fillPage t)) :
    ∃ field value, ⟨.post, field⟩ ∈ placeholders (fillVariables page.bindings t) ∧
      page.field? field = some value ∧ HoldsVariable x value := by
  have hfilled := without_fillVariables hx ht hvars
  have hwf := Page.wellFormed_of_fieldResolver hvalues
  unfold HoldsVariable Page.fillPage Page.fillFields at hholds
  rw [hfilled.wellFormed.placeholders_substitute hwf] at hholds
  obtain ⟨q, hq, hmem⟩ := List.mem_flatMap.mp hholds
  cases hfield : page.fieldResolver q with
  | none =>
    rw [hfield] at hmem
    exact absurd (List.mem_singleton.mp hmem).symm (hfilled.forall_placeholders q hq)
  | some value =>
    rw [hfield] at hmem
    obtain ⟨sigil, field⟩ := q
    cases sigil with
    | post => exact ⟨field, value, hq, hfield, hmem⟩
    | template => cases hfield
    | value => cases hfield

end Passes

/-! ## Where a variable that is left comes from -/

section Settled

variable {x template listed settled name : Text} {page : Page} {pages : PageSet} {expansions : Nat}

/-- Before the first round, the variable came with the values of listed pages. -/
theorem exists_value_of_holdsVariable_listed (hx : page.bindings.contains x = true)
    (htemplate : WellFormed template)
    (hvars : ∀ value ∈ page.bindings.values, Without x value)
    (hpages : ∀ e ∈ pages.entries, ∀ value ∈ e.2.values, WellFormed value)
    (hlisted : (expandLists expansions pages (fillVariables page.bindings template)).result =
      .ok listed)
    (hholds : HoldsVariable x listed) :
    ∃ e ∈ pages.entries, ∃ value ∈ e.2.values, HoldsVariable x value := by
  by_contra hnone
  have hfree : ∀ e ∈ pages.entries, ∀ value ∈ e.2.values, Without x value := by
    intro e he value hvalue
    refine without_iff.mpr ⟨hpages e he value hvalue, fun hholds => hnone ?_⟩
    exact ⟨e, he, value, hvalue, hholds⟩
  have hstart : Without x (Listing.ofText (fillVariables page.bindings template)).text :=
    without_fillVariables hx htemplate hvars
  have hwithout : Without x listed := Listing.wellFormedWith_of_expandWithin hfree hlisted hstart
  exact hwithout.not_holdsVariable hholds

/-- A variable of the page that is left when the post fields are settled came last: with a variable
of the page, with a listed page if no round was made, or else with a post field that the last round
filled in. -/
theorem exists_of_holdsVariable_settled (hx : page.bindings.contains x = true)
    (htemplate : WellFormed template) (hvalues : ∀ value ∈ page.values, WellFormed value)
    (hpages : ∀ e ∈ pages.entries, ∀ value ∈ e.2.values, WellFormed value)
    (hlisted : (expandLists expansions pages (fillVariables page.bindings template)).result =
      .ok listed)
    (hsettled : page.settleFields name listed = .ok settled) (hholds : HoldsVariable x settled) :
    (∃ value ∈ page.bindings.values, HoldsVariable x value) ∨
      (settled = listed ∧ ∃ e ∈ pages.entries, ∃ value ∈ e.2.values, HoldsVariable x value) ∨
      ∃ rounds field value, settled = page.fillPage^[rounds + 1] listed ∧
        ⟨.post, field⟩ ∈
          placeholders (fillVariables page.bindings (page.fillPage^[rounds] listed)) ∧
        page.field? field = some value ∧ HoldsVariable x value := by
  by_cases hown : ∃ value ∈ page.bindings.values, HoldsVariable x value
  · exact .inl hown
  have hvars : ∀ value ∈ page.bindings.values, Without x value := by
    intro value hvalue
    have hwf := hvalues value (List.mem_append_left _ hvalue)
    exact without_iff.mpr ⟨hwf, fun hholds => hown ⟨value, hvalue, hholds⟩⟩
  obtain ⟨rounds, -, -, hrounds⟩ := Page.settleWithin_eq_ok_iff.mp hsettled
  right
  cases rounds with
  | zero =>
    have hsame : settled = listed := hrounds
    rw [hsame] at hholds
    exact .inl ⟨hsame, exists_value_of_holdsVariable_listed hx htemplate hvars hpages hlisted hholds⟩
  | succ rounds =>
    have hlistedWf : WellFormed listed := by
      have hany : ∀ e ∈ pages.entries, ∀ value ∈ e.2.values, WellFormedWith (fun _ => True) value :=
        fun e he value hvalue => ⟨hpages e he value hvalue, fun _ _ => trivial⟩
      have hfilled := without_fillVariables hx htemplate hvars
      exact (Listing.wellFormedWith_of_expandWithin hany hlisted
        ⟨hfilled.wellFormed, fun _ _ => trivial⟩).wellFormed
    have hbefore := Page.wellFormed_iterate_fillPage hvalues hlistedWf rounds
    rw [hrounds, Function.iterate_succ_apply'] at hholds
    obtain ⟨field, value, hmem, hfield, hholds⟩ :=
      exists_field_of_holdsVariable hx hbefore hvalues hvars hholds
    exact .inr ⟨rounds, field, value, hrounds, hmem, hfield, hholds⟩

end Settled

/-! ## Rendering -/

section Render

variable (files : FileSystem) (context : RenderContext) (name : Text) (page : Page)
  (store : TemplateStore)

/-- The texts of a page on the way to its final form: its template with all includes, that with the
list blocks expanded, and that with the post fields settled. -/
structure Stages (template listed settled : Text) : Prop where
  /-- The template of the page with all that it includes. -/
  template_eq : ((TemplateStore.expand files page.template).run store).1.result = .ok template
  /-- The list blocks are expanded when the page's variables are filled in. -/
  listed_eq : (expandLists context.expansions context.pages
    (fillVariables page.bindings template)).result = .ok listed
  /-- The post fields are settled. -/
  settled_eq : page.settleFields name listed = .ok settled

/-- A page as rendered with given global variables. -/
def renderedUnder (globals : Bindings) : Except BuildError RenderedPage :=
  ((renderPage files { context with globals } name page).run store).1.result

variable {files context name page store}

theorem Stages.unique {template listed settled template' listed' settled' : Text}
    (h : Stages files context name page store template listed settled)
    (h' : Stages files context name page store template' listed' settled') :
    template = template' ∧ listed = listed' ∧ settled = settled' := by
  obtain rfl : template = template' := Except.ok.inj (h.template_eq.symm.trans h'.template_eq)
  obtain rfl : listed = listed' := Except.ok.inj (h.listed_eq.symm.trans h'.listed_eq)
  exact ⟨rfl, rfl, Except.ok.inj (h.settled_eq.symm.trans h'.settled_eq)⟩

theorem renderedUnder_of_stages {template listed settled : Text}
    (h : Stages files context name page store template listed settled) (globals : Bindings) :
    renderedUnder files context name page store globals =
      (checkFilled name (fillVariables globals settled)).map fun _ =>
        ⟨page.outputPath, fillVariables globals settled⟩ := by
  unfold renderedUnder renderPage
  rw [Stage.result_bind, h.template_eq]
  simp only [Except.bind, Stage.result_bind, Stage.run_lift, fillTemplate, Outcome.bind_eq,
    Outcome.result_andThen, h.listed_eq, Outcome.ofExcept, h.settled_eq]
  cases checkFilled name (fillVariables globals settled) <;> rfl

theorem renderedUnder_eq_of_forall_stages {globals others : Bindings}
    (h : ∀ template listed settled, Stages files context name page store template listed settled →
      fillVariables globals settled = fillVariables others settled) :
    renderedUnder files context name page store globals =
      renderedUnder files context name page store others := by
  unfold renderedUnder renderPage
  rw [Stage.result_bind, Stage.result_bind]
  cases htemplate : ((TemplateStore.expand files page.template).run store).1.result with
  | error e => simp only [Except.bind]
  | ok template =>
    simp only [Except.bind, Stage.result_bind, Stage.run_lift, fillTemplate, Outcome.bind_eq,
      Outcome.result_andThen]
    cases hlisted : (expandLists context.expansions context.pages
        (fillVariables page.bindings template)).result with
    | error e => simp only
    | ok listed =>
      simp only [Outcome.ofExcept]
      cases hsettled : page.settleFields name listed with
      | error e => simp only
      | ok settled => simp only [h template listed settled ⟨htemplate, hlisted, hsettled⟩]

variable (files context name store) in
/-- A global variable with the name of one of the page's own makes no difference, unless it is still
asked for when the post fields are settled. If template and values are well-formed, it can be asked
for then only in what came into the text last: a variable of the page, or a value of a listed page
if no round of post fields was made, or a post field that the last round filled in. So it is never
asked for on account of the template, of an include, or of a text that a later round begins with. -/
theorem renderedUnder_eq_of_sameExcept {x : Text} (hx : page.bindings.contains x = true) :
    (∀ globals others, SameExcept x globals others →
      (∀ template listed settled,
        Stages files context name page store template listed settled → ¬ HoldsVariable x settled) →
      renderedUnder files context name page store globals =
        renderedUnder files context name page store others) ∧
    ∀ template listed settled, Stages files context name page store template listed settled →
      WellFormed template → (∀ value ∈ page.values, WellFormed value) →
      (∀ e ∈ context.pages.entries, ∀ value ∈ e.2.values, WellFormed value) →
      HoldsVariable x settled →
        (∃ value ∈ page.bindings.values, HoldsVariable x value) ∨
        (settled = listed ∧
          ∃ e ∈ context.pages.entries, ∃ value ∈ e.2.values, HoldsVariable x value) ∨
        ∃ rounds field value, settled = page.fillPage^[rounds + 1] listed ∧
          ⟨.post, field⟩ ∈
            placeholders (fillVariables page.bindings (page.fillPage^[rounds] listed)) ∧
          page.field? field = some value ∧ HoldsVariable x value := by
  refine ⟨fun globals others hsame hnone => ?_, fun template listed settled hstages => ?_⟩
  · refine renderedUnder_eq_of_forall_stages fun template listed settled hstages => ?_
    exact fillVariables_eq_of_sameExcept hsame (hnone template listed settled hstages)
  · intro htemplate hvalues hpages hholds
    exact exists_of_holdsVariable_settled hx htemplate hvalues hpages hstages.listed_eq
      hstages.settled_eq hholds

/-- The content asks for the variable beside a post field, so a round is made after it came into the
text. -/
theorem renderedUnder_eq_of_content_with_date :
    let page : Page :=
      { template := "t".toList, date := "May".toList, content := "@{x} in #{post-date}".toList,
        bindings := .ofList [("x".toList, "Rain".toList)] }
    let store : TemplateStore :=
      ⟨"t".toList, "html".toList, .ofList [("t".toList, "@{x}: #{post-content}".toList)]⟩
    let context : RenderContext := { pages := ∅, globals := ∅, expansions := 0 }
    let globals : Bindings := .ofList [("x".toList, "Sun".toList)]
    page.bindings.contains "x".toList = true ∧
      renderedUnder .empty context "p".toList page store globals =
        renderedUnder .empty context "p".toList page store ∅ := by
  intro page store context globals
  have hx : page.bindings.contains "x".toList = true := by decide
  have hsame : SameExcept "x".toList globals ∅ := by
    intro y hy
    show lookupEntry y [("x".toList, "Sun".toList)] = none
    exact Dictionary.lookupEntry_eq_none (by simpa using hy.symm)
  have hshadow := renderedUnder_eq_of_sameExcept .empty context "p".toList store hx
  refine ⟨hx, hshadow.1 globals ∅ hsame fun template listed settled hstages => ?_⟩
  have hfirst : page.fillPage "Rain: #{post-content}".toList =
      "Rain: @{x} in #{post-date}".toList := by decide
  have hsecond : page.fillPage "Rain: @{x} in #{post-date}".toList =
      "Rain: Rain in May".toList := by decide
  have hsettled : page.settleFields "p".toList "Rain: #{post-content}".toList =
      .ok "Rain: Rain in May".toList := by
    have hlimit : page.roundLimit = 9 := rfl
    rw [Page.settleFields, hlimit, Page.settleWithin_of_fillPage_ne (by decide) (by decide), hfirst,
      Page.settleWithin_of_fillPage_ne (by decide) (by decide), hsecond,
      Page.settleWithin_of_settled (by decide)]
  have hread : Stages .empty context "p".toList page store "@{x}: #{post-content}".toList
      "Rain: #{post-content}".toList "Rain: Rain in May".toList := ⟨rfl, rfl, hsettled⟩
  obtain ⟨-, -, rfl⟩ := hstages.unique hread
  decide

end Render

/-- The content asks for the variable and for nothing else, so no round is made after it came into
the text: the global variable is read in place of the page's own. -/
theorem renderedUnder_ne_of_content :
    let page : Page :=
      { template := "t".toList, url := "p.html".toList, content := "@{x}".toList,
        bindings := .ofList [("x".toList, "1".toList)] }
    let store : TemplateStore :=
      ⟨"t".toList, "html".toList, .ofList [("t".toList, "#{post-content}".toList)]⟩
    let context : RenderContext := { pages := ∅, globals := ∅, expansions := 0 }
    let globals : Bindings := .ofList [("x".toList, "2".toList)]
    let others : Bindings := .ofList [("x".toList, "1".toList)]
    page.bindings.contains "x".toList = true ∧ SameExcept "x".toList globals others ∧
      renderedUnder .empty context "p".toList page store globals =
        .ok ⟨"p.html".toList, "2".toList⟩ ∧
      renderedUnder .empty context "p".toList page store others =
        .ok ⟨"p.html".toList, "1".toList⟩ := by
  intro page store context globals others
  have hnone : ∀ (value : Text) y, y ≠ "x".toList → lookupEntry y [("x".toList, value)] = none :=
    fun value y hy => Dictionary.lookupEntry_eq_none (by simpa using hy.symm)
  have hread : Stages .empty context "p".toList page store "#{post-content}".toList
      "#{post-content}".toList "@{x}".toList := ⟨rfl, rfl, rfl⟩
  refine ⟨by decide, fun y hy => (hnone _ y hy).trans (hnone _ y hy).symm, ?_, ?_⟩
  · rw [renderedUnder_of_stages hread]
    rfl
  · rw [renderedUnder_of_stages hread]
    rfl

end StaticSite
