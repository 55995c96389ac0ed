import StaticSite.Proofs.Template.Plain

/-!
# What a store remembers

A store remembers texts from one call to the next, also from calls that failed. This changes no
answer: the store expands a template to what `plain` expands it to, whatever it was asked for before
(`result_expand_after`).

The invariant is that each remembered text is the `plain` one with no template open (`Sound`). It
may be used while others are open: the remembered template leads to none of them, or else it would
lead to itself, for each open template leads to it.
-/

namespace StaticSite

namespace TemplateStore

/-- Each remembered text is the one that the recursion without a store gives. -/
structure Sound (files : FileSystem) (path : Text → Path) (store : TemplateStore) : Prop where
  /-- The template files are where the recursion looks for them. -/
  path_eq : store.path = path
  /-- What is remembered can be expanded anew. -/
  exists_plain : ∀ name text, store.expanded.find? name = some text →
    ∃ levels, plain files path levels [] name = some (.ok text)

variable {files : FileSystem} {path : Text → Path} {store : TemplateStore}

theorem Sound.of_new (files : FileSystem) (folder : Path) (extension : Text) :
    Sound files (TemplateStore.path ⟨folder, extension, ∅⟩) ⟨folder, extension, ∅⟩ where
  path_eq := rfl
  exists_plain := fun _ _ h => nomatch h

theorem Sound.remember (h : Sound files path store) {name text : Text} {levels : Nat}
    (hplain : plain files path levels [] name = some (.ok text)) :
    Sound files path (remember name text store) where
  path_eq := h.path_eq
  exists_plain := by
    intro name' text' hfind
    have hfind' := (Dictionary.find?_insert store.expanded name text name').symm.trans hfind
    by_cases hname : name = name'
    · rw [if_pos hname] at hfind'
      cases hfind'
      exact ⟨levels, hname ▸ hplain⟩
    · rw [if_neg hname] at hfind'
      exact h.exists_plain name' text' hfind'

/-- A step that answers as the recursion without a store does, and leaves the store sound. -/
structure Agrees (files : FileSystem) (path : Text → Path) {α : Type}
    (answer : Nat → Option (Except BuildError α)) (step : Outcome α × TemplateStore) : Prop where
  /-- With enough levels, the recursion has the same answer. -/
  exists_levels : ∃ levels, answer levels = some step.1.result
  /-- The store stays sound. -/
  sound : Sound files path step.2

theorem agrees_expandAll {chain : List Text} {expand : Text → Stage TemplateStore Text}
    {names : List Text}
    (hexpand : ∀ name ∈ names, ∀ store, Sound files path store →
      Agrees files path (plain files path · chain name) ((expand name).run store))
    (h : Sound files path store) :
    Agrees files path (fun levels => plainAll (plain files path levels chain) names)
      ((expandAll expand names).run store) := by
  induction names generalizing store with
  | nil => exact ⟨⟨0, rfl⟩, h⟩
  | cons name names ih =>
    have hone := hexpand name List.mem_cons_self store h
    have hmore := ih (fun m hm => hexpand m (List.mem_cons_of_mem _ hm)) hone.sound
    obtain ⟨first, hfirst⟩ := hone.exists_levels
    obtain ⟨later, hlater⟩ := hmore.exists_levels
    have hfirst' := plain_mono hfirst (Nat.le_max_left first later)
    have hlater' : plainAll (plain files path (max first later) chain) names = _ :=
      plainAll_mono (fun _ _ hm => plain_mono hm (Nat.le_max_right first later)) hlater
    rw [expandAll]
    cases hresult : ((expand name).run store).1.result with
    | error e =>
      refine ⟨⟨max first later, ?_⟩, ?_⟩
      · simp only [plainAll, hfirst', hresult, Stage.result_bind]
        rfl
      · rw [Stage.state_bind, hresult]
        exact hone.sound
    | ok text =>
      cases hrest : ((expandAll expand names).run ((expand name).run store).2).1.result with
      | error e =>
        refine ⟨⟨max first later, ?_⟩, ?_⟩
        · simp only [plainAll, hfirst', hlater', hresult, hrest, Stage.result_bind, Except.bind]
          rfl
        · simp only [Stage.state_bind, hresult, hrest]
          exact hmore.sound
      | ok texts =>
        refine ⟨⟨max first later, ?_⟩, ?_⟩
        · simp only [plainAll, hfirst', hlater', hresult, hrest, Stage.result_bind, Except.bind]
          rfl
        · simp only [Stage.state_bind, hresult, hrest]
          exact hmore.sound

/-! ## One template -/

section Fetch

variable {chain : List Text} {name : Text} {make : Text → Stage TemplateStore Text}

theorem run_fetch_of_find? {text : Text} (hfind : store.expanded.find? name = some text) :
    ((fetch files chain name make).run store).1.result = .ok text ∧
      ((fetch files chain name make).run store).2 = store := by
  unfold fetch
  simp only [Stage.result_bind, Stage.state_bind, Stage.run_get, Outcome.ok, Except.bind, hfind]
  exact ⟨rfl, rfl⟩

variable (hfind : store.expanded.find? name = none)

include hfind

theorem run_fetch_of_mem (hmem : name ∈ chain) :
    ((fetch files chain name make).run store).1.result = .error (.cyclicInclude (chain ++ [name])) ∧
      ((fetch files chain name make).run store).2 = store := by
  unfold fetch
  simp only [Stage.result_bind, Stage.state_bind, Stage.run_get, Outcome.ok, Except.bind, hfind,
    if_pos hmem]
  exact ⟨rfl, rfl⟩

theorem run_fetch_of_unreadable (hnew : name ∉ chain) {cause : FileError}
    (hread : files.readText (store.path name) = .error cause) :
    ((fetch files chain name make).run store).1.result =
        .error (.templateNotFound name (store.path name) cause) ∧
      ((fetch files chain name make).run store).2 = store := by
  unfold fetch
  simp only [Stage.result_bind, Stage.state_bind, Stage.run_get, Outcome.ok, Except.bind, hfind,
    if_neg hnew, hread]
  exact ⟨rfl, rfl⟩

theorem run_fetch_of_readable (hnew : name ∉ chain) {raw : Text}
    (hread : files.readText (store.path name) = .ok raw) :
    ((fetch files chain name make).run store).1.result = ((make raw).run store).1.result ∧
      ((fetch files chain name make).run store).2 = ((make raw).run store).2 := by
  unfold fetch
  simp only [Stage.result_bind, Stage.state_bind, Stage.run_get, Stage.run_note, Outcome.ok,
    Outcome.result_note, Except.bind, hfind, if_neg hnew, hread, and_self]

end Fetch

/-- A remembered template leads to none of the open ones, so its text is the one that the recursion
gives while they are open. -/
theorem agrees_fetch_of_find? {chain : List Text} {name text : Text}
    {make : Text → Stage TemplateStore Text} (hopens : Opens files path chain name)
    (h : Sound files path store) (hfind : store.expanded.find? name = some text) :
    Agrees files path (plain files path · chain name)
      ((fetch files chain name make).run store) := by
  obtain ⟨hresult, hstate⟩ : _ ∧ ((fetch files chain name make).run store).2 = store :=
    run_fetch_of_find? hfind
  obtain ⟨levels, hplain⟩ := h.exists_plain name text hfind
  have hacyclic := not_transGen_of_plain_eq_ok hplain
  refine ⟨⟨levels, ?_⟩, by rw [hstate]; exact h⟩
  rw [hresult]
  refine plain_of_unreachable hplain fun reached hreach hmem => ?_
  exact hacyclic (Relation.TransGen.trans_right hreach (hopens.transGen reached hmem))

/-- It is enough that what is made of a file agrees: what is remembered, a circle and a file that
cannot be read agree anyway. -/
theorem agrees_fetch {chain : List Text} {name : Text} {make : Text → Stage TemplateStore Text}
    (hopens : Opens files path chain name) (h : Sound files path store)
    (hmake : name ∉ chain → ∀ raw, files.readText (path name) = .ok raw →
      Agrees files path (plain files path · chain name) ((make raw).run store)) :
    Agrees files path (plain files path · chain name)
      ((fetch files chain name make).run store) := by
  cases hfind : store.expanded.find? name with
  | some text => exact agrees_fetch_of_find? hopens h hfind
  | none =>
    by_cases hmem : name ∈ chain
    · obtain ⟨hresult, hstate⟩ : _ ∧ ((fetch files chain name make).run store).2 = store :=
        run_fetch_of_mem hfind hmem
      exact ⟨⟨1, by rw [plain_of_mem hmem, hresult]⟩, by rw [hstate]; exact h⟩
    · cases hread : files.readText (path name) with
      | error cause =>
        obtain ⟨hresult, hstate⟩ : _ ∧ ((fetch files chain name make).run store).2 = store :=
          run_fetch_of_unreadable hfind hmem (h.path_eq ▸ hread)
        refine ⟨⟨1, ?_⟩, by rw [hstate]; exact h⟩
        rw [plain_of_unreadable hmem hread, hresult, h.path_eq]
      | ok raw =>
        obtain ⟨hresult, hstate⟩ :
            _ ∧ ((fetch files chain name make).run store).2 = ((make raw).run store).2 :=
          run_fetch_of_readable hfind hmem (h.path_eq ▸ hread)
        obtain ⟨⟨levels, hlevels⟩, hsound⟩ := hmake hmem raw hread
        exact ⟨⟨levels, by rw [hlevels, hresult]⟩, by rw [hstate]; exact hsound⟩

/-- The step lemma: a store that is sound answers as the recursion does, and stays sound. -/
theorem agrees_expandWithin {depth : Nat} {chain : List Text} {name : Text}
    (hopens : Opens files path chain name) (hdepth : files.totalSize < depth + chain.length)
    (h : Sound files path store) :
    Agrees files path (plain files path · chain name)
      ((expandWithin files depth chain name).run store) := by
  induction depth generalizing chain name store with
  | zero =>
    refine agrees_fetch hopens h fun hnew raw hread => ?_
    -- the chain would be too long
    have hle := hopens.length_le hnew
    omega
  | succ depth ih =>
    refine agrees_fetch hopens h fun hnew raw hread => ?_
    have hlonger : files.totalSize < depth + (chain ++ [name]).length := by
      rw [List.length_append, List.length_singleton]
      omega
    have hall : Agrees files path
        (fun levels => plainAll (plain files path levels (chain ++ [name])) (includes raw))
        ((expandAll (expandWithin files depth (chain ++ [name])) (includes raw)).run store) := by
      refine agrees_expandAll (fun included hmem store hsound => ?_) h
      exact ih (.next hopens hnew ⟨raw, hread, hmem⟩) hlonger hsound
    obtain ⟨levels, hlevels⟩ := hall.exists_levels
    cases hresult : ((expandAll (expandWithin files depth (chain ++ [name]))
        (includes raw)).run store).1.result with
    | error e =>
      refine ⟨⟨levels + 1, ?_⟩, ?_⟩
      · rw [plain_of_readable hnew hread, hlevels, Stage.result_bind, hresult]
        rfl
      · rw [Stage.state_bind, hresult]
        exact hall.sound
    | ok texts =>
      have hplain : plain files path (levels + 1) chain name =
          some (.ok (substitute (templateResolver texts) raw)) := by
        rw [plain_of_readable hnew hread, hlevels, hresult]
        rfl
      refine ⟨⟨levels + 1, ?_⟩, ?_⟩
      · rw [hplain, Stage.result_bind, hresult]
        rfl
      · rw [Stage.state_bind, hresult]
        exact hall.sound.remember (plain_of_unreachable hplain fun _ _ => List.not_mem_nil)

/-! ## Any calls -/

/-- The store after some templates were asked for. -/
def after (files : FileSystem) (store : TemplateStore) (names : List Text) : TemplateStore :=
  names.foldl (fun store name => ((expand files name).run store).2) store

theorem agrees_expand (h : Sound files path store) (name : Text) :
    Agrees files path (plain files path · [] name) ((expand files name).run store) := by
  refine agrees_expandWithin (.start name) ?_ h
  rw [List.length_nil]
  omega

theorem Sound.after (h : Sound files path store) (names : List Text) :
    Sound files path (after files store names) := by
  induction names generalizing store with
  | nil => exact h
  | cons name names ih => exact ih (agrees_expand h name).sound

/-- A sound store answers as the recursion does with any number of levels that gives an answer. -/
theorem result_expand_eq_iff (h : Sound files path store) (name : Text)
    (answer : Except BuildError Text) :
    ((expand files name).run store).1.result = answer ↔
      ∃ levels, plain files path levels [] name = some answer := by
  obtain ⟨levels, hlevels⟩ := (agrees_expand h name).exists_levels
  constructor
  · rintro rfl
    exact ⟨levels, hlevels⟩
  · rintro ⟨levels', hlevels'⟩
    have hone := plain_mono hlevels (Nat.le_max_left levels levels')
    have hother := plain_mono hlevels' (Nat.le_max_right levels levels')
    exact Option.some.inj (hone.symm.trans hother)

/-- Whatever a store was asked for before, it answers as a new store does, and as the recursion that
remembers nothing, reads the includes off each file and fills in their texts. The file of a template
has its name, a dot and the extension. -/
theorem result_expand_after (files : FileSystem) (folder : Path) (extension : Text)
    (names : List Text) (name : Text) :
    let new : TemplateStore := ⟨folder, extension, ∅⟩
    let path (name : Text) : Path := Path.join folder (name ++ '.' :: extension)
    ((expand files name).run (after files new names)).1.result =
        ((expand files name).run new).1.result ∧
      ∀ answer, ((expand files name).run new).1.result = answer ↔
        ∃ levels, plain files path levels [] name = some answer := by
  intro new path
  have hnew := Sound.of_new files folder extension
  have hanswer := result_expand_eq_iff hnew name
  have hafter := result_expand_eq_iff (hnew.after names) name
  refine ⟨?_, hanswer⟩
  exact (hafter _).mpr ((hanswer _).mp rfl)

end TemplateStore

end StaticSite
