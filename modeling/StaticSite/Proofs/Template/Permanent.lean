import StaticSite.Proofs.Template.Growth

/-!
# What a store remembers, it remembers for good

The files may change between two calls of a store, and a call may fail at any depth. Whatever
happens, each call leaves a store that `Grows` out of the one it found: no text is lost or changed,
no open template comes to be remembered, and a template is remembered only together with all that it
includes. So what a call has expanded stays, whatever the files are later
(`remembered_permanently`).
-/

namespace StaticSite

namespace TemplateStore

variable {files : FileSystem} {chain : List Text} {name : Text} {store later : TemplateStore}

theorem isExpanded_iff : store.isExpanded name = true ↔
    ∃ text, store.expanded.find? name = some text :=
  Option.isSome_iff_exists

theorem isExpanded_eq_false_iff : store.isExpanded name = false ↔
    store.expanded.find? name = none :=
  Option.isSome_eq_false_iff.trans Option.isNone_iff_eq_none

theorem Knows.isExpanded (h : Knows store later) (hexpanded : store.isExpanded name = true) :
    later.isExpanded name = true := by
  obtain ⟨text, hfind⟩ := isExpanded_iff.mp hexpanded
  exact isExpanded_iff.mpr ⟨text, h name text hfind⟩

/-- One store comes out of another one while the templates of `chain` are open. -/
structure Grows (files : FileSystem) (chain : List Text) (store later : TemplateStore) : Prop where
  /-- The template files are at the same places. -/
  path_eq : later.path = store.path
  /-- Nothing is forgotten or changed. -/
  knows : Knows store later
  /-- No open template comes to be remembered. -/
  find?_of_open : ∀ opened ∈ chain, store.expanded.find? opened = none →
    later.expanded.find? opened = none
  /-- What comes to be remembered does so together with all that it includes. -/
  includes : ∀ added included, later.isExpanded added = true →
    store.expanded.find? added = none → Includes files store.path added included →
    later.isExpanded included = true

namespace Grows

theorem refl (files : FileSystem) (chain : List Text) (store : TemplateStore) :
    Grows files chain store store := by
  refine ⟨rfl, .refl store, fun _ _ h => h, ?_⟩
  intro added included hexpanded hnew _
  rw [isExpanded_eq_false_iff.mpr hnew] at hexpanded
  cases hexpanded

theorem trans (store later last : TemplateStore) (h : Grows files chain store later)
    (h' : Grows files chain later last) : Grows files chain store last := by
  have hpath : last.path = store.path := h'.path_eq.trans h.path_eq
  have hknows : Knows store last := .trans store later last h.knows h'.knows
  refine ⟨hpath, hknows, ?_, ?_⟩
  · intro opened hopened hnew
    exact h'.find?_of_open opened hopened (h.find?_of_open opened hopened hnew)
  · intro added included hexpanded hnew hincludes
    -- the template was added on one of the two ways
    cases hmid : later.isExpanded added with
    | true => exact h'.knows.isExpanded (h.includes added included hmid hnew hincludes)
    | false =>
      have hincludes' : Includes files later.path added included := by
        rw [h.path_eq]
        exact hincludes
      exact h'.includes added included hexpanded (isExpanded_eq_false_iff.mp hmid) hincludes'

theorem mono {fewer : List Text} (h : Grows files chain store later) (hsub : fewer ⊆ chain) :
    Grows files fewer store later :=
  ⟨h.path_eq, h.knows, fun opened hopened => h.find?_of_open opened (hsub hopened), h.includes⟩

/-- A template that is not open may be remembered once all that it includes is. -/
theorem remember (h : Grows files chain store later) (hnew : store.expanded.find? name = none)
    (hclosed : name ∉ chain)
    (hall : ∀ included, Includes files store.path name included → later.isExpanded included = true)
    (text : Text) : Grows files chain store (remember name text later) := by
  have hfind : ∀ other, (TemplateStore.remember name text later).expanded.find? other =
      if name = other then some text else later.expanded.find? other := by
    intro other
    exact Dictionary.find?_insert later.expanded name text other
  have hkeeps : ∀ other, later.isExpanded other = true →
      (TemplateStore.remember name text later).isExpanded other = true := by
    intro other hother
    obtain ⟨found, hfound⟩ := isExpanded_iff.mp hother
    rw [isExpanded_iff, hfind]
    by_cases heq : name = other
    · exact ⟨text, if_pos heq⟩
    · exact ⟨found, by rw [if_neg heq, hfound]⟩
  refine ⟨h.path_eq, h.knows.remember hnew text, ?_, ?_⟩
  · intro opened hopened hnone
    have hne : name ≠ opened := by
      rintro rfl
      exact hclosed hopened
    rw [hfind, if_neg hne]
    exact h.find?_of_open opened hopened hnone
  · intro added included hexpanded hnone hincludes
    by_cases heq : name = added
    · subst heq
      exact hkeeps included (hall included hincludes)
    · have hlater : later.isExpanded added = true := by
        obtain ⟨found, hfound⟩ := isExpanded_iff.mp hexpanded
        rw [hfind, if_neg heq] at hfound
        exact isExpanded_iff.mpr ⟨found, hfound⟩
      exact hkeeps included (h.includes added included hlater hnone hincludes)

end Grows

/-! ## One call -/

/-- If all templates of a list expand, the store then remembers them all. -/
theorem isExpanded_of_expandAll {expand : Text → Stage TemplateStore Text} {names : List Text}
    {texts : Bindings} (hexpand : ∀ name store, Remembers name store ((expand name).run store))
    (hok : ((expandAll expand names).run store).1.result = .ok texts) :
    ∀ name ∈ names, ((expandAll expand names).run store).2.isExpanded name = true := by
  induction names generalizing store texts with
  | nil => simp
  | cons first names ih =>
    have hrest : Stage.Relates Knows (expandAll expand names) :=
      relates_expandAll Knows.refl Knows.trans (fun name store => (hexpand name store).knows) names
    rw [expandAll, Stage.result_bind] at hok
    cases hfirst : ((expand first).run store).1.result with
    | error e =>
      rw [hfirst] at hok
      cases hok
    | ok text =>
      have hfound := (hexpand first store).find?_eq text hfirst
      rw [hfirst] at hok
      simp only [Except.bind, Stage.result_bind] at hok
      cases hothers : ((expandAll expand names).run ((expand first).run store).2).1.result with
      | error e =>
        rw [hothers] at hok
        cases hok
      | ok others =>
        have hstate : ((expandAll expand (first :: names)).run store).2 =
            ((expandAll expand names).run ((expand first).run store).2).2 := by
          rw [expandAll]
          simp only [Stage.state_bind, hfirst, hothers]
          rfl
        rw [hstate]
        intro name hname
        rcases List.mem_cons.mp hname with rfl | hname
        · exact (hrest _).isExpanded (isExpanded_iff.mpr ⟨text, hfound⟩)
        · exact ih hothers name hname

/-- What is remembered, a circle and a file that cannot be read leave the store as it is. -/
theorem grows_fetch {opened : List Text} {make : Text → Stage TemplateStore Text}
    (hmake : ∀ raw, store.expanded.find? name = none → name ∉ chain →
      files.readText (store.path name) = .ok raw →
      Grows files opened store ((make raw).run store).2) :
    Grows files opened store ((fetch files chain name make).run store).2 := by
  cases hfind : store.expanded.find? name with
  | some text =>
    rw [(run_fetch_of_find? hfind).2]
    exact .refl files opened store
  | none =>
    by_cases hmem : name ∈ chain
    · rw [(run_fetch_of_mem hfind hmem).2]
      exact .refl files opened store
    · cases hread : files.readText (store.path name) with
      | error cause =>
        rw [(run_fetch_of_unreadable hfind hmem hread).2]
        exact .refl files opened store
      | ok raw =>
        rw [(run_fetch_of_readable hfind hmem hread).2]
        exact hmake raw hfind hmem hread

/-- The step lemma: expanding a template lets the store grow. -/
theorem grows_expandWithin (depth : Nat) (chain : List Text) (name : Text)
    (store : TemplateStore) :
    Grows files chain store ((expandWithin files depth chain name).run store).2 := by
  induction depth generalizing chain name store with
  | zero =>
    refine grows_fetch fun raw _ _ _ => ?_
    exact .refl files chain store
  | succ depth ih =>
    refine grows_fetch fun raw hnew hclosed hread => ?_
    have hall : Grows files (chain ++ [name]) store
        ((expandAll (expandWithin files depth (chain ++ [name])) (includes raw)).run store).2 :=
      relates_expandAll (Grows.refl files _) Grows.trans (ih (chain ++ [name])) _ store
    have hgrows := hall.mono (List.subset_append_left chain [name])
    rw [Stage.state_bind]
    cases hresult : ((expandAll (expandWithin files depth (chain ++ [name]))
        (includes raw)).run store).1.result with
    | error e => exact hgrows
    | ok texts =>
      refine hgrows.remember hnew hclosed ?_ _
      rintro included ⟨raw', hread', hmem⟩
      rw [hread] at hread'
      cases hread'
      exact isExpanded_of_expandAll (remembers_expandWithin depth _) hresult included hmem

theorem grows_expand (files : FileSystem) (name : Text) (store : TemplateStore) :
    Grows files [] store ((expand files name).run store).2 :=
  grows_expandWithin _ [] name store

/-- In a call that fails, the template that it was asked for stays open. -/
theorem grows_expand_of_error {e : BuildError}
    (herror : ((expand files name).run store).1.result = .error e) :
    Grows files [name] store ((expand files name).run store).2 := by
  unfold expand expandWithin at herror ⊢
  refine grows_fetch fun raw hnew hclosed hread => ?_
  rw [(run_fetch_of_readable hnew hclosed hread).1, Stage.result_bind] at herror
  rw [Stage.state_bind]
  have hall : Grows files [name] store
      ((expandAll (expandWithin files files.totalSize ([] ++ [name])) (includes raw)).run store).2 :=
    relates_expandAll (Grows.refl files _) Grows.trans
      (grows_expandWithin files.totalSize ([] ++ [name])) _ store
  cases hresult : ((expandAll (expandWithin files files.totalSize ([] ++ [name]))
      (includes raw)).run store).1.result with
  | error e' => exact hall
  | ok texts =>
    rw [hresult] at herror
    cases herror

theorem find?_of_expand_eq_error {e : BuildError}
    (herror : ((expand files name).run store).1.result = .error e) :
    ((expand files name).run store).2.expanded.find? name = none := by
  cases hfind : store.expanded.find? name with
  | some text =>
    unfold expand expandWithin at herror
    rw [(run_fetch_of_find? hfind).1] at herror
    cases herror
  | none => exact (grows_expand_of_error herror).find?_of_open name (by simp) hfind

/-! ## Any calls -/

/-- The store after some calls, each with the files as they are then. -/
def afterCalls (calls : List (FileSystem × Text)) (store : TemplateStore) : TemplateStore :=
  calls.foldl (fun store call => ((expand call.1 call.2).run store).2) store

theorem knows_afterCalls (calls : List (FileSystem × Text)) (store : TemplateStore) :
    Knows store (afterCalls calls store) := by
  induction calls generalizing store with
  | nil => exact .refl store
  | cons call calls ih =>
    have hfirst := (remembers_expand call.1 call.2 store).knows
    exact .trans _ _ _ hfirst (ih _)

/-- A template that the store does not remember is read, and asks for what its file includes. -/
def Asks (files : FileSystem) (store : TemplateStore) (name included : Text) : Prop :=
  store.expanded.find? name = none ∧ Includes files store.path name included

theorem Grows.isExpanded_of_asks (h : Grows files chain store later) {reached : Text}
    (hname : later.isExpanded name = true)
    (hreach : Relation.ReflTransGen (Asks files store) name reached) :
    later.isExpanded reached = true := by
  induction hreach with
  | refl => exact hname
  | tail _ hasks ih => exact h.includes _ _ ih hasks.1 hasks.2

/-- Whatever a store remembers, from earlier calls and other files, and whatever the files are at
later calls: it keeps what it remembers, with the same texts. A call that fails does not remember
what it was asked for. One that gives a text remembers the template and all that was expanded on the
way, and each later call for that template gives the same text. -/
theorem remembered_permanently (store : TemplateStore) (files : FileSystem) (name : Text)
    (calls : List (FileSystem × Text)) :
    let answer := ((expand files name).run store).1.result
    let next := ((expand files name).run store).2
    let last := afterCalls calls next
    (∀ other, store.isExpanded other = true → last.isExpanded other = true) ∧
      (∀ other text, store.expanded.find? other = some text →
        last.expanded.find? other = some text) ∧
      (∀ e, answer = .error e → next.isExpanded name = false) ∧
      (∀ other included, next.isExpanded other = true → Asks files store other included →
        next.isExpanded included = true) ∧
      ∀ text, answer = .ok text →
        next.expanded.find? name = some text ∧
          (∀ reached, Relation.ReflTransGen (Asks files store) name reached →
            next.isExpanded reached = true) ∧
          ∀ others, ((expand others name).run last).1.result = .ok text := by
  intro answer next last
  have hgrows : Grows files [] store next := grows_expand files name store
  have hlater : Knows next last := knows_afterCalls calls next
  have hknows : Knows store last := .trans store next last hgrows.knows hlater
  refine ⟨fun other => hknows.isExpanded, hknows, ?_, ?_, ?_⟩
  · intro e herror
    exact isExpanded_eq_false_iff.mpr (find?_of_expand_eq_error herror)
  · intro other included hother hasks
    exact hgrows.includes other included hother hasks.1 hasks.2
  · intro text hok
    have hfound := (remembers_expand files name store).find?_eq text hok
    have hname : next.isExpanded name = true := isExpanded_iff.mpr ⟨text, hfound⟩
    refine ⟨hfound, fun reached hreach => hgrows.isExpanded_of_asks hname hreach, fun others => ?_⟩
    exact result_expand_of_knows hok hlater others

/-- A template that is expanded with another one, then a call that fails, with other files, and a
call without any files. -/
theorem remembered_permanently_changed_files :
    let folder := "t".toList
    let root := FileSystem.empty.put [folder] .directory
    let files := (root.put [folder, "a.html".toList]
        (.file (Text.encode "x$\x7bb\x7d".toList))).put
      [folder, "b.html".toList] (.file (Text.encode "y".toList))
    let changed := (root.put [folder, "c.html".toList]
        (.file (Text.encode "$\x7bb\x7d$\x7bd\x7d".toList))).put
      [folder, "b.html".toList] (.file (Text.encode "z".toList))
    let store : TemplateStore := ⟨folder, "html".toList, ∅⟩
    let next := ((expand files "a".toList).run store).2
    let last := afterCalls [(changed, "c".toList)] next
    ((expand files "a".toList).run store).1.result = .ok "xy".toList ∧
      next.isExpanded "b".toList = true ∧
      ((expand changed "c".toList).run next).2.isExpanded "c".toList = false ∧
      ((expand FileSystem.empty "a".toList).run last).1.result = .ok "xy".toList := by
  intro folder root files changed store next last
  have hfirst : ((expand files "a".toList).run store).1.result = .ok "xy".toList := by rfl
  have hnext : next = ⟨folder, "html".toList,
      .ofList [("a".toList, "xy".toList), ("b".toList, "y".toList)]⟩ := by rfl
  have hsecond : ((expand changed "c".toList).run next).1.result =
      .error (.templateNotFound "d".toList "t/d.html".toList .notFound) := by
    rw [hnext]
    rfl
  have hasks : Asks files store "a".toList "b".toList :=
    ⟨rfl, "x$\x7bb\x7d".toList, rfl, by decide⟩
  obtain ⟨-, -, -, -, htext⟩ :=
    remembered_permanently store files "a".toList [(changed, "c".toList)]
  obtain ⟨-, -, hfails, -, -⟩ := remembered_permanently next changed "c".toList []
  obtain ⟨-, hreached, hagain⟩ := htext _ hfirst
  have hlast : last = afterCalls [(changed, "c".toList)] ((expand files "a".toList).run store).2 :=
    rfl
  rw [hlast]
  exact ⟨hfirst, hreached "b".toList (.single hasks), hfails _ hsecond, hagain FileSystem.empty⟩

end TemplateStore

end StaticSite
