import StaticSite.Proofs.Template.Filling

/-!
# Expanding templates without remembering them

`plain` is the recursion that a store spares: it reads a template each time that it is included, and
reads the includes off its text. A number of levels bounds it, and `none` stands for a recursion
that is deeper; with more levels an answer stays the same (`plain_mono`).

The answer depends on the templates that are open, for these must not come up again. A text does
not: if a template expands to a text, it expands to the same text whatever templates are open, as
long as it does not lead to one of them (`plain_of_unreachable`).
-/

namespace StaticSite

/-- The texts of some templates, each asked for in turn, up to the first error. -/
def plainAll (expand : Text → Option (Except BuildError Text)) :
    List Text → Option (Except BuildError Bindings)
  | [] => some (.ok ∅)
  | name :: names =>
    match expand name with
    | none => none
    | some (.error e) => some (.error e)
    | some (.ok text) =>
      (plainAll expand names).map fun r => r.map fun texts => texts.insert name text

/-- The expanded text of a template that is asked for while the templates of `chain` are open. -/
def plain (files : FileSystem) (path : Text → Path) :
    (levels : Nat) → (chain : List Text) → (name : Text) → Option (Except BuildError Text)
  | 0, _, _ => none
  | levels + 1, chain, name =>
    if name ∈ chain then some (.error (.cyclicInclude (chain ++ [name])))
    else
      match files.readText (path name) with
      | .error cause => some (.error (.templateNotFound name (path name) cause))
      | .ok raw =>
        (plainAll (plain files path levels (chain ++ [name])) (includeNames raw).eraseDups).map
          fun r => r.map fun texts => fillIncludes texts raw

/-! ## Several templates -/

section All

variable {f g : Text → Option (Except BuildError Text)} {names : List Text}

theorem plainAll_mono {r : Except BuildError Bindings}
    (hfg : ∀ name answer, f name = some answer → g name = some answer)
    (h : plainAll f names = some r) : plainAll g names = some r := by
  induction names generalizing r with
  | nil => exact h
  | cons name names ih =>
    rw [plainAll] at h ⊢
    cases hname : f name with
    | none =>
      rw [hname] at h
      cases h
    | some answer =>
      rw [hname] at h
      rw [hfg name answer hname]
      cases answer with
      | error e => exact h
      | ok text =>
        obtain ⟨r', hr', hr⟩ := Option.map_eq_some_iff.mp h
        exact Option.map_eq_some_iff.mpr ⟨r', ih hr', hr⟩

/-- What it takes that all templates expand to texts. -/
theorem plainAll_cons_eq_ok {name : Text} {texts : Bindings}
    (h : plainAll f (name :: names) = some (.ok texts)) :
    ∃ text rest, f name = some (.ok text) ∧ plainAll f names = some (.ok rest) ∧
      texts = rest.insert name text := by
  rw [plainAll] at h
  cases hname : f name with
  | none =>
    rw [hname] at h
    cases h
  | some answer =>
    rw [hname] at h
    cases answer with
    | error e => cases h
    | ok text =>
      obtain ⟨r, hr, hmap⟩ := Option.map_eq_some_iff.mp h
      cases r with
      | error e => cases hmap
      | ok rest =>
        cases hmap
        exact ⟨text, rest, rfl, hr, rfl⟩

theorem exists_of_plainAll_eq_ok {texts : Bindings} (h : plainAll f names = some (.ok texts)) :
    ∀ name ∈ names, ∃ text, f name = some (.ok text) := by
  induction names generalizing texts with
  | nil => exact fun _ hmem => absurd hmem List.not_mem_nil
  | cons name names ih =>
    obtain ⟨text, rest, hname, hrest, -⟩ := plainAll_cons_eq_ok h
    exact List.forall_mem_cons.mpr ⟨⟨text, hname⟩, ih hrest⟩

/-- The texts are those of the templates that were asked for. -/
theorem find?_of_plainAll_eq_ok {texts : Bindings} (h : plainAll f names = some (.ok texts))
    {name text : Text} :
    texts.find? name = some text ↔ name ∈ names ∧ f name = some (.ok text) := by
  induction names generalizing texts with
  | nil =>
    cases h
    have hnone : (∅ : Bindings).find? name = none := Dictionary.find?_empty name
    simp [hnone]
  | cons first names ih =>
    obtain ⟨firstText, rest, hfirst, hrest, rfl⟩ := plainAll_cons_eq_ok h
    have hinsert := Dictionary.find?_insert rest first firstText name
    rw [hinsert]
    by_cases hname : first = name
    · subst hname
      rw [if_pos rfl, hfirst]
      simp
    · have hne : name ≠ first := fun heq => hname heq.symm
      rw [if_neg hname, ih hrest]
      simp [hne]

/-- All templates fail with the error of one of them. -/
theorem exists_of_plainAll_eq_error {e : BuildError} (h : plainAll f names = some (.error e)) :
    ∃ name ∈ names, f name = some (.error e) := by
  induction names with
  | nil => cases h
  | cons name names ih =>
    rw [plainAll] at h
    cases hname : f name with
    | none =>
      rw [hname] at h
      cases h
    | some answer =>
      rw [hname] at h
      cases answer with
      | error e' =>
        cases h
        exact ⟨name, by simp, hname⟩
      | ok text =>
        obtain ⟨r, hr, hmap⟩ := Option.map_eq_some_iff.mp h
        cases r with
        | ok rest => cases hmap
        | error e' =>
          cases hmap
          obtain ⟨other, hmem, hother⟩ := ih hr
          exact ⟨other, List.mem_cons_of_mem _ hmem, hother⟩

theorem plainAll_congr_ok {texts : Bindings} (h : plainAll f names = some (.ok texts))
    (hfg : ∀ name ∈ names, ∀ text, f name = some (.ok text) → g name = some (.ok text)) :
    plainAll g names = some (.ok texts) := by
  induction names generalizing texts with
  | nil => exact h
  | cons name names ih =>
    obtain ⟨text, rest, hname, hrest, rfl⟩ := plainAll_cons_eq_ok h
    rw [plainAll, hfg name List.mem_cons_self text hname]
    have hmore := ih hrest fun m hm => hfg m (List.mem_cons_of_mem _ hm)
    exact Option.map_eq_some_iff.mpr ⟨.ok rest, hmore, rfl⟩

end All

/-! ## One template -/

variable {files : FileSystem} {path : Text → Path} {levels : Nat} {chain : List Text}
  {name text : Text}

theorem plain_of_mem (h : name ∈ chain) (levels : Nat) :
    plain files path (levels + 1) chain name = some (.error (.cyclicInclude (chain ++ [name]))) :=
  if_pos h

theorem plain_of_unreadable (hnew : name ∉ chain) {cause : FileError}
    (hread : files.readText (path name) = .error cause) (levels : Nat) :
    plain files path (levels + 1) chain name =
      some (.error (.templateNotFound name (path name) cause)) := by
  refine (if_neg hnew).trans ?_
  rw [hread]

theorem plain_of_readable (hnew : name ∉ chain) {raw : Text}
    (hread : files.readText (path name) = .ok raw) (levels : Nat) :
    plain files path (levels + 1) chain name =
      (plainAll (plain files path levels (chain ++ [name])) (includes raw)).map fun r =>
        r.map fun texts => substitute (templateResolver texts) raw := by
  refine (if_neg hnew).trans ?_
  rw [hread, includes_eq]
  simp only [substitute_templateResolver]

theorem plain_succ {answer : Except BuildError Text}
    (h : plain files path levels chain name = some answer) :
    plain files path (levels + 1) chain name = some answer := by
  induction levels generalizing chain name answer with
  | zero => cases h
  | succ levels ih =>
    by_cases hnew : name ∈ chain
    · rw [plain_of_mem hnew] at h ⊢
      exact h
    · cases hread : files.readText (path name) with
      | error cause =>
        rw [plain_of_unreadable hnew hread] at h ⊢
        exact h
      | ok raw =>
        rw [plain_of_readable hnew hread] at h ⊢
        obtain ⟨r, hr, hanswer⟩ := Option.map_eq_some_iff.mp h
        have hmore := plainAll_mono (fun included answer => ih) hr
        exact Option.map_eq_some_iff.mpr ⟨r, hmore, hanswer⟩

/-- With more levels, an answer stays the same. -/
theorem plain_mono {answer : Except BuildError Text} {more : Nat}
    (h : plain files path levels chain name = some answer) (hle : levels ≤ more) :
    plain files path more chain name = some answer := by
  induction hle with
  | refl => exact h
  | step _ ih => exact plain_succ ih

/-- What it takes that a template expands to a text. -/
theorem plain_eq_ok (h : plain files path levels chain name = some (.ok text)) :
    ∃ fewer raw texts, levels = fewer + 1 ∧ name ∉ chain ∧
      files.readText (path name) = .ok raw ∧
      plainAll (plain files path fewer (chain ++ [name])) (includes raw) = some (.ok texts) ∧
      text = substitute (templateResolver texts) raw := by
  cases levels with
  | zero => cases h
  | succ fewer =>
    by_cases hnew : name ∈ chain
    · rw [plain_of_mem hnew] at h
      cases h
    · cases hread : files.readText (path name) with
      | error cause =>
        rw [plain_of_unreadable hnew hread] at h
        cases h
      | ok raw =>
        rw [plain_of_readable hnew hread] at h
        obtain ⟨r, hr, hanswer⟩ := Option.map_eq_some_iff.mp h
        cases r with
        | error e => cases hanswer
        | ok texts =>
          cases hanswer
          exact ⟨fewer, raw, texts, rfl, hnew, rfl, hr, rfl⟩

/-- What it takes that a template has no text: it is open already, its file cannot be read, or
something that it includes has no text. -/
theorem plain_eq_error {e : BuildError}
    (h : plain files path levels chain name = some (.error e)) :
    (name ∈ chain ∧ e = .cyclicInclude (chain ++ [name])) ∨
      (∃ cause, files.readText (path name) = .error cause ∧
        e = .templateNotFound name (path name) cause) ∨
      ∃ fewer included, levels = fewer + 1 ∧ name ∉ chain ∧ Includes files path name included ∧
        plain files path fewer (chain ++ [name]) included = some (.error e) := by
  cases levels with
  | zero => cases h
  | succ fewer =>
    by_cases hnew : name ∈ chain
    · rw [plain_of_mem hnew] at h
      cases h
      exact .inl ⟨hnew, rfl⟩
    · cases hread : files.readText (path name) with
      | error cause =>
        rw [plain_of_unreadable hnew hread] at h
        cases h
        exact .inr (.inl ⟨cause, rfl, rfl⟩)
      | ok raw =>
        rw [plain_of_readable hnew hread] at h
        obtain ⟨r, hr, hanswer⟩ := Option.map_eq_some_iff.mp h
        cases r with
        | ok texts => cases hanswer
        | error e' =>
          cases hanswer
          obtain ⟨included, hmem, hplain⟩ := exists_of_plainAll_eq_error hr
          exact .inr (.inr ⟨fewer, included, rfl, hnew, ⟨raw, hread, hmem⟩, hplain⟩)

/-- What a template with a text includes has a text, too. -/
theorem exists_plain_of_includes (h : plain files path levels chain name = some (.ok text))
    {included : Text} (hincludes : Includes files path name included) :
    ∃ fewer text', levels = fewer + 1 ∧
      plain files path fewer (chain ++ [name]) included = some (.ok text') := by
  obtain ⟨fewer, raw, texts, rfl, -, hread, hall, -⟩ := plain_eq_ok h
  obtain ⟨raw', hread', hmem⟩ := hincludes
  cases hread.symm.trans hread'
  obtain ⟨text', htext'⟩ := exists_of_plainAll_eq_ok hall included hmem
  exact ⟨fewer, text', rfl, htext'⟩

/-- A template that expands to a text leads to none of the open templates. -/
theorem not_mem_of_plain_eq_ok (h : plain files path levels chain name = some (.ok text))
    {reached : Text} (hreach : Relation.ReflTransGen (Includes files path) name reached) :
    reached ∉ chain := by
  induction levels generalizing chain name text with
  | zero => cases h
  | succ levels ih =>
    rcases hreach.cases_head with rfl | ⟨included, hincludes, hrest⟩
    · obtain ⟨-, -, -, -, hnew, -⟩ := plain_eq_ok h
      exact hnew
    · obtain ⟨fewer, text', hlevels, hincluded⟩ := exists_plain_of_includes h hincludes
      cases hlevels
      exact fun hmem => ih hincluded hrest (List.mem_append_left _ hmem)

/-- A template that expands to a text does not lead to itself. -/
theorem not_transGen_of_plain_eq_ok (h : plain files path levels chain name = some (.ok text)) :
    ¬ Relation.TransGen (Includes files path) name name := by
  intro hcycle
  obtain ⟨included, hincludes, hback⟩ := Relation.TransGen.head'_iff.mp hcycle
  obtain ⟨fewer, text', -, hincluded⟩ := exists_plain_of_includes h hincludes
  exact not_mem_of_plain_eq_ok hincluded hback (List.mem_append_right _ List.mem_cons_self)

/-- A text does not depend on the open templates that it has nothing to do with. -/
theorem plain_of_unreachable (h : plain files path levels chain name = some (.ok text))
    {others : List Text}
    (hothers : ∀ reached, Relation.ReflTransGen (Includes files path) name reached →
      reached ∉ others) :
    plain files path levels others name = some (.ok text) := by
  induction levels generalizing chain others name text with
  | zero => cases h
  | succ levels ih =>
    have hacyclic := not_transGen_of_plain_eq_ok h
    obtain ⟨fewer, raw, texts, hlevels, hnew, hread, hall, htext⟩ := plain_eq_ok h
    cases hlevels
    have hall' : plainAll (plain files path levels (others ++ [name])) (includes raw) =
        some (.ok texts) := by
      refine plainAll_congr_ok hall fun included hmem text' htext' => ih htext' ?_
      have hincludes : Includes files path name included := ⟨raw, hread, hmem⟩
      intro reached hreach hmem'
      rcases List.mem_append.mp hmem' with hmem' | hmem'
      · exact hothers reached (.head hincludes hreach) hmem'
      · rw [List.mem_singleton.mp hmem'] at hreach
        exact hacyclic (.head' hincludes hreach)
    rw [plain_of_readable (hothers name .refl) hread, hall', htext]
    rfl

end StaticSite
