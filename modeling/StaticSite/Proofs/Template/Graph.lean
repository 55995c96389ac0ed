import Mathlib.Data.List.Chain
import StaticSite.Proofs.Placeholder.Grammar
import StaticSite.Proofs.Template.Store

/-!
# Which templates have a text

Templates and what they include form a graph. A template has a text exactly if every template that
it leads to has a file that can be read and no template that it leads to leads back to itself
(`TemplateStore.expand_decides`).

Where a template has none, the recursion stopped at the end of a chain of open templates. What it
stopped at is either open already, and the chain then runs into a circle, or has no readable file
(`exists_opens_of_plain_eq_error`).
-/

namespace StaticSite

/-! ## The edges of the graph -/

/-- A template includes the identifiers that stand in its file behind a dollar sign, in braces. -/
theorem includes_iff_infix {files : FileSystem} {path : Text → Path} {name included : Text} :
    Includes files path name included ↔
      Placeholder.isIdentifier included = true ∧
        ∃ raw, files.readText (path name) = .ok raw ∧ '$' :: '{' :: included ++ ['}'] <:+: raw := by
  constructor
  · rintro ⟨raw, hread, hmem⟩
    obtain ⟨hident, hplaceholder⟩ := mem_includes_iff.mp hmem
    have hinfix := (mem_placeholders_iff.mp hplaceholder).2
    exact ⟨hident, raw, hread, hinfix⟩
  · rintro ⟨hident, raw, hread, hinfix⟩
    have hbody := isBody_of_isIdentifier hident
    have hplaceholder : (⟨.template, included⟩ : Placeholder) ∈ placeholders raw :=
      mem_placeholders_iff.mpr ⟨hbody, hinfix⟩
    exact ⟨raw, hread, mem_includes_iff.mpr ⟨hident, hplaceholder⟩⟩

/-! ## Chains of open templates -/

section Opens

variable {files : FileSystem} {path : Text → Path} {chain : List Text} {name : Text}

theorem Opens.nodup_chain (h : Opens files path chain name) : chain.Nodup := by
  cases h with
  | start => exact List.nodup_nil
  | next h hnew hincludes => exact h.nodup hnew

theorem Opens.isChain (h : Opens files path chain name) :
    (chain ++ [name]).IsChain (Includes files path) := by
  induction h with
  | start name => simp
  | @next chain name included h hnew hincludes ih =>
    refine ih.append (by simp) ?_
    intro last hlast first hfirst
    have hlast' : name = last := by simpa using hlast
    have hfirst' : included = first := by simpa using hfirst
    rw [← hlast', ← hfirst']
    exact hincludes

theorem Opens.reflTransGen {opened : List Text} {last : Text} (h : Opens files path opened last)
    (hfirst : [name] <+: opened ++ [last]) :
    Relation.ReflTransGen (Includes files path) name last := by
  obtain ⟨rest, heq⟩ := hfirst
  cases opened with
  | nil =>
    have hname : name = last := by
      have := congrArg List.head? heq
      simpa using this
    rw [hname]
  | cons first opened =>
    have hname : name = first := by
      have := congrArg List.head? heq
      simpa using this
    have hreach := h.transGen first (by simp)
    rw [hname]
    exact hreach.to_reflTransGen

end Opens

/-! ## Templates without a text -/

section Plain

variable {files : FileSystem} {path : Text → Path} {levels : Nat} {chain : List Text}
  {name text : Text} {e : BuildError}

/-- A template without a text leads to one that is asked for while it is open, or whose file cannot
be read. -/
theorem exists_opens_of_plain_eq_error (hopens : Opens files path chain name)
    (h : plain files path levels chain name = some (.error e)) :
    ∃ opened last, Opens files path opened last ∧ chain ++ [name] <+: opened ++ [last] ∧
      ((last ∈ opened ∧ e = .cyclicInclude (opened ++ [last])) ∨
        ∃ cause, files.readText (path last) = .error cause ∧
          e = .templateNotFound last (path last) cause) := by
  induction levels generalizing chain name with
  | zero => cases h
  | succ levels ih =>
    rcases plain_eq_error h with ⟨hmem, he⟩ | hmissing | hdeeper
    · exact ⟨chain, name, hopens, List.prefix_rfl, .inl ⟨hmem, he⟩⟩
    · exact ⟨chain, name, hopens, List.prefix_rfl, .inr hmissing⟩
    · -- an included template has none, and it is asked for while this one is open as well
      obtain ⟨fewer, included, hlevels, hnew, hincludes, hplain⟩ := hdeeper
      cases hlevels
      have hnext : Opens files path (chain ++ [name]) included := .next hopens hnew hincludes
      obtain ⟨opened, last, hlast, hprefix, herror⟩ := ih hnext hplain
      have hlonger : chain ++ [name] <+: chain ++ [name] ++ [included] := List.prefix_append _ _
      exact ⟨opened, last, hlast, hlonger.trans hprefix, herror⟩

/-- All that a template with a text leads to has a text, too. -/
theorem exists_plain_of_reflTransGen (h : plain files path levels chain name = some (.ok text))
    {reached : Text} (hreach : Relation.ReflTransGen (Includes files path) name reached) :
    ∃ fewer opened text', plain files path fewer opened reached = some (.ok text') := by
  induction hreach with
  | refl => exact ⟨levels, chain, text, h⟩
  | tail _ hincludes ih =>
    obtain ⟨fewer, opened, text', hplain⟩ := ih
    obtain ⟨deeper, text'', -, hincluded⟩ := exists_plain_of_includes hplain hincludes
    exact ⟨deeper, _, text'', hincluded⟩

end Plain

/-- Each template of the chain includes the next one, from the given one on to the first one that
comes up again. -/
structure RunsIntoCircle (files : FileSystem) (path : Text → Path) (name : Text)
    (opened : List Text) (last : Text) : Prop where
  /-- The chain begins with the template that was asked for. -/
  head : opened.head? = some name
  /-- Each template includes the next one. -/
  includes : (opened ++ [last]).IsChain (Includes files path)
  /-- No template but the last one comes up twice. -/
  nodup : opened.Nodup
  /-- The last one came up before. -/
  mem : last ∈ opened

namespace TemplateStore

theorem runsIntoCircle_of_opens {files : FileSystem} {path : Text → Path} {name last : Text}
    {opened : List Text} (h : Opens files path opened last) (hmem : last ∈ opened)
    (hfirst : [name] <+: opened ++ [last]) : RunsIntoCircle files path name opened last := by
  refine ⟨?_, h.isChain, h.nodup_chain, hmem⟩
  obtain ⟨rest, heq⟩ := hfirst
  cases opened with
  | nil => simp at hmem
  | cons first opened =>
    have := congrArg List.head? heq
    simpa using this.symm

/-- A new store decides the graph of includes. Its recursion ends, whatever greater depth it may
have; it gives a text exactly if all that the template leads to can be read and nothing of it leads
back to itself; and otherwise it names a chain that runs into a circle, or a template without a
readable file that the given one leads to. -/
theorem expand_decides (files : FileSystem) (folder : Path) (extension name : Text) :
    let new : TemplateStore := ⟨folder, extension, ∅⟩
    let result := ((expand files name).run new).1.result
    let Edge := Includes files new.path
    (∀ a b, Edge a b ↔ Placeholder.isIdentifier b = true ∧
        ∃ raw, files.readText (new.path a) = .ok raw ∧ '$' :: '{' :: b ++ ['}'] <:+: raw) ∧
      (∃ levels, plain files new.path levels [] name = some result) ∧
      (∀ depth > files.totalSize, ((expandWithin files depth [] name).run new).1.result = result) ∧
      ((∃ text, result = .ok text) ↔
        ∀ reached, Relation.ReflTransGen Edge name reached →
          (∃ raw, files.readText (new.path reached) = .ok raw) ∧
            ¬ Relation.TransGen Edge reached reached) ∧
      ∀ e, result = .error e →
        (∃ opened last, e = .cyclicInclude (opened ++ [last]) ∧
            RunsIntoCircle files new.path name opened last) ∨
          ∃ missing cause, e = .templateNotFound missing (new.path missing) cause ∧
            Relation.ReflTransGen Edge name missing ∧
            files.readText (new.path missing) = .error cause := by
  intro new result Edge
  have hnew := Sound.of_new files folder extension
  have hanswer := result_expand_eq_iff hnew name
  obtain ⟨levels, hlevels⟩ := (hanswer result).mp rfl
  have herror : ∀ e, result = .error e →
      ∃ opened last, Opens files new.path opened last ∧ [name] <+: opened ++ [last] ∧
        ((last ∈ opened ∧ e = .cyclicInclude (opened ++ [last])) ∨
          ∃ cause, files.readText (new.path last) = .error cause ∧
            e = .templateNotFound last (new.path last) cause) := by
    intro e he
    rw [he] at hlevels
    exact exists_opens_of_plain_eq_error (.start name) hlevels
  refine ⟨fun a b => includes_iff_infix, ⟨levels, hlevels⟩, ?_, ⟨?_, ?_⟩, ?_⟩
  · intro depth hdepth
    have hagrees : Agrees files new.path (plain files new.path · [] name)
        ((expandWithin files depth [] name).run new) :=
      agrees_expandWithin (.start name) (by simpa using hdepth) hnew
    obtain ⟨other, hother⟩ := hagrees.exists_levels
    exact ((hanswer _).mpr ⟨other, hother⟩).symm
  · rintro ⟨text, htext⟩ reached hreach
    rw [htext] at hlevels
    obtain ⟨fewer, opened, text', hplain⟩ := exists_plain_of_reflTransGen hlevels hreach
    obtain ⟨-, raw, -, -, -, hread, -, -⟩ := plain_eq_ok hplain
    exact ⟨⟨raw, hread⟩, not_transGen_of_plain_eq_ok hplain⟩
  · intro hall
    cases hresult : result with
    | ok text => exact ⟨text, rfl⟩
    | error e =>
      obtain ⟨opened, last, hopens, hfirst, hwhy⟩ := herror e hresult
      obtain ⟨⟨raw, hread⟩, hacyclic⟩ := hall last (hopens.reflTransGen hfirst)
      rcases hwhy with ⟨hmem, -⟩ | ⟨cause, hcause, -⟩
      · exact absurd (hopens.transGen last hmem) hacyclic
      · rw [hread] at hcause
        cases hcause
  · intro e he
    obtain ⟨opened, last, hopens, hfirst, hwhy⟩ := herror e he
    rcases hwhy with ⟨hmem, hcircle⟩ | ⟨cause, hcause, hmissing⟩
    · exact .inl ⟨opened, last, hcircle, runsIntoCircle_of_opens hopens hmem hfirst⟩
    · exact .inr ⟨last, cause, hmissing, hopens.reflTransGen hfirst, hcause⟩

/-- A template that leads to a circle without being on it. -/
theorem expand_decides_inner_circle :
    let folder := "t".toList
    let files := (((FileSystem.empty.put [folder] .directory).put [folder, "a.html".toList]
          (.file (Text.encode "$\x7bb\x7d".toList))).put
        [folder, "b.html".toList] (.file (Text.encode "x$\x7bc\x7d".toList))).put
        [folder, "c.html".toList] (.file (Text.encode "$\x7bb\x7d$\x7bd\x7d".toList))
    let new : TemplateStore := ⟨folder, "html".toList, ∅⟩
    let opened := ["a".toList, "b".toList, "c".toList]
    ((expand files "a".toList).run new).1.result =
        .error (.cyclicInclude (opened ++ ["b".toList])) ∧
      RunsIntoCircle files new.path "a".toList opened "b".toList := by
  intro folder files new opened
  have hresult : ((expand files "a".toList).run new).1.result =
      .error (.cyclicInclude (opened ++ ["b".toList])) := by rfl
  obtain ⟨-, -, -, -, herror⟩ := expand_decides files folder "html".toList "a".toList
  rcases herror _ hresult with ⟨opened', last, he, hcircle⟩ | ⟨missing, cause, he, -, -⟩
  · have hchain := BuildError.cyclicInclude.inj he
    obtain ⟨hopened, hlast⟩ := List.append_inj' hchain rfl
    have hlast' := List.head_eq_of_cons_eq hlast
    rw [← hopened, ← hlast'] at hcircle
    exact ⟨hresult, hcircle⟩
  · cases he

end TemplateStore

end StaticSite
