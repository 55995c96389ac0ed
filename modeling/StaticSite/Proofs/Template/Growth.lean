import StaticSite.Proofs.Template.Store

/-!
# A store never forgets

Whatever a store is asked for, and whether it can answer or not, it keeps what it remembers; and
once it has given the text of a template, it gives that whatever the files are
(`result_expand_of_knows`).
-/

namespace StaticSite

namespace TemplateStore

variable {files : FileSystem} {store : TemplateStore}

/-- A store remembers all that an earlier one did. -/
def Knows (store later : TemplateStore) : Prop :=
  ∀ name text, store.expanded.find? name = some text → later.expanded.find? name = some text

theorem Knows.refl (store : TemplateStore) : Knows store store :=
  fun _ _ => id

theorem Knows.trans (store later last : TemplateStore) (h : Knows store later)
    (h' : Knows later last) : Knows store last :=
  fun name text hfind => h' name text (h name text hfind)

/-- Something new may be remembered. -/
theorem Knows.remember {later : TemplateStore} (h : Knows store later) {name : Text}
    (hnew : store.expanded.find? name = none) (text : Text) :
    Knows store (remember name text later) := by
  intro other found hfind
  show (later.expanded.insert name text).find? other = some found
  rw [Dictionary.find?_insert, if_neg]
  · exact h other found hfind
  · rintro rfl
    rw [hnew] at hfind
    cases hfind

theorem find?_remember (name text : Text) (store : TemplateStore) :
    (remember name text store).expanded.find? name = some text := by
  show (store.expanded.insert name text).find? name = some text
  rw [Dictionary.find?_insert, if_pos rfl]

theorem relates_expandAll {R : TemplateStore → TemplateStore → Prop} (hrefl : ∀ s, R s s)
    (htrans : ∀ r s t, R r s → R s t → R r t) {expand : Text → Stage TemplateStore Text}
    (h : ∀ name, Stage.Relates R (expand name)) (names : List Text) :
    Stage.Relates R (expandAll expand names) := by
  induction names with
  | nil => exact .lift hrefl _
  | cons name names ih =>
    refine .bind htrans (h name) fun text => ?_
    exact .bind htrans ih fun texts => .lift hrefl _

/-- What is made of a template's file is remembered, and nothing is forgotten. -/
structure Remembers (name : Text) (store : TemplateStore) (step : Outcome Text × TemplateStore) :
    Prop where
  /-- Nothing is forgotten. -/
  knows : Knows store step.2
  /-- The text is remembered. -/
  find?_eq : ∀ text, step.1.result = .ok text → step.2.expanded.find? name = some text

theorem remembers_fetch {chain : List Text} {name : Text}
    {make : Text → Stage TemplateStore Text}
    (hmake : ∀ raw, store.expanded.find? name = none →
      Remembers name store ((make raw).run store)) :
    Remembers name store ((fetch files chain name make).run store) := by
  cases hfind : store.expanded.find? name with
  | some text =>
    obtain ⟨hresult, hstate⟩ : ((fetch files chain name make).run store).1.result = .ok text ∧ _ :=
      run_fetch_of_find? hfind
    refine ⟨by rw [hstate]; exact .refl store, fun found hok => ?_⟩
    rw [hresult] at hok
    rw [hstate, hfind, Except.ok.inj hok]
  | none =>
    by_cases hmem : name ∈ chain
    · obtain ⟨hresult, hstate⟩ : _ ∧ ((fetch files chain name make).run store).2 = store :=
        run_fetch_of_mem hfind hmem
      refine ⟨by rw [hstate]; exact .refl store, fun found hok => ?_⟩
      rw [hresult] at hok
      cases hok
    · cases hread : files.readText (store.path name) with
      | error cause =>
        obtain ⟨hresult, hstate⟩ : _ ∧ ((fetch files chain name make).run store).2 = store :=
          run_fetch_of_unreadable hfind hmem hread
        refine ⟨by rw [hstate]; exact .refl store, fun found hok => ?_⟩
        rw [hresult] at hok
        cases hok
      | ok raw =>
        obtain ⟨hresult, hstate⟩ :
            _ ∧ ((fetch files chain name make).run store).2 = ((make raw).run store).2 :=
          run_fetch_of_readable hfind hmem hread
        obtain ⟨hknows, hfound⟩ := hmake raw hfind
        refine ⟨by rw [hstate]; exact hknows, fun found hok => ?_⟩
        rw [hstate]
        exact hfound found (hresult ▸ hok)

/-- The step lemma: a template that is expanded is remembered, and nothing is forgotten. -/
theorem remembers_expandWithin (depth : Nat) (chain : List Text) (name : Text)
    (store : TemplateStore) :
    Remembers name store ((expandWithin files depth chain name).run store) := by
  induction depth generalizing chain name store with
  | zero => exact remembers_fetch fun raw hnew => ⟨.refl store, fun text hok => nomatch hok⟩
  | succ depth ih =>
    refine remembers_fetch fun raw hnew => ?_
    have hall : Knows store ((expandAll (expandWithin files depth (chain ++ [name]))
        (includes raw)).run store).2 :=
      relates_expandAll Knows.refl Knows.trans
        (fun included store => (ih (chain ++ [name]) included store).knows) _ store
    refine ⟨?_, fun text hok => ?_⟩
    · rw [Stage.state_bind]
      cases ((expandAll (expandWithin files depth (chain ++ [name]))
        (includes raw)).run store).1.result with
      | error e => exact hall
      | ok texts => exact hall.remember hnew _
    · rw [Stage.result_bind] at hok
      rw [Stage.state_bind]
      cases hresult : ((expandAll (expandWithin files depth (chain ++ [name]))
        (includes raw)).run store).1.result with
      | error e =>
        rw [hresult] at hok
        cases hok
      | ok texts =>
        rw [hresult] at hok
        cases hok
        exact find?_remember name _ _

theorem remembers_expand (files : FileSystem) (name : Text) (store : TemplateStore) :
    Remembers name store ((expand files name).run store) :=
  remembers_expandWithin _ [] name store

/-- Once a store has given a text, it and all later ones give the same, whatever the files are. -/
theorem result_expand_of_knows {name text : Text} {later : TemplateStore}
    (hok : ((expand files name).run store).1.result = .ok text)
    (h : Knows ((expand files name).run store).2 later) (other : FileSystem) :
    ((expand other name).run later).1.result = .ok text := by
  have hfound := h name text ((remembers_expand files name store).find?_eq text hok)
  unfold expand expandWithin
  exact (run_fetch_of_find? hfound).1

end TemplateStore

end StaticSite
