import StaticSite.Proofs.Placeholder.Substitute
import StaticSite.Proofs.Template.Include

/-!
# Includes without a scan

An include is a dollar sign and a name in braces, and a name is made of letters and hyphens. So the
includes of a text can be read off it from left to right (`includeAt?`, `includeNames`), and one
pass that does so puts texts in their place (`fillIncludes`). No placeholder has to be told from
another one for that: nothing begins inside of an include.

The store scans a text for all its placeholders and substitutes. It finds the same names
(`includes_eq`) and comes to the same text (`substitute_templateResolver`).
-/

namespace StaticSite

/-! ## Reading includes -/

/-- The characters of a name. -/
def isNameChar (c : Char) : Bool :=
  c.isAlpha || c == '-'

/-- The name of the include that a text begins with, and the text behind it. -/
def includeAt? : Text → Option (Text × Text)
  | '$' :: '{' :: t =>
    match t.takeWhile isNameChar, t.dropWhile isNameChar with
    | c :: name, '}' :: rest => some (c :: name, rest)
    | _, _ => none
  | _ => none

/-- The names of the includes of a text, in order. -/
def includeNames : Text → List Text
  | [] => []
  | c :: t =>
    match includeAt? (c :: t) with
    | some (name, _) => name :: includeNames t
    | none => includeNames t

theorem isIdentifier_iff {name : Text} :
    Placeholder.isIdentifier name = true ↔ name ≠ [] ∧ ∀ c ∈ name, isNameChar c = true := by
  rw [Placeholder.isIdentifier, Bool.and_eq_true, List.all_eq_true]
  refine and_congr (by simp) (forall₂_congr fun c _ => ?_)
  exact Iff.rfl

theorem includeAt?_eq_some_iff {t name rest : Text} :
    includeAt? t = some (name, rest) ↔
      Placeholder.isIdentifier name = true ∧ t = '$' :: '{' :: (name ++ '}' :: rest) := by
  rw [isIdentifier_iff]
  constructor
  · intro h
    unfold includeAt? at h
    split at h
    · next t =>
      split at h
      · next c name' rest' htake hdrop =>
        cases h
        have hall := List.all_eq_true.mp (List.all_takeWhile (p := isNameChar) (l := t))
        have hsplit := List.takeWhile_append_dropWhile (p := isNameChar) (l := t)
        rw [htake] at hall
        rw [htake, hdrop] at hsplit
        exact ⟨⟨List.cons_ne_nil _ _, hall⟩, by rw [hsplit]⟩
      · cases h
    · cases h
  · rintro ⟨⟨hne, hall⟩, rfl⟩
    have hbrace : ¬ isNameChar '}' = true := by decide
    have htake : (name ++ '}' :: rest).takeWhile isNameChar = name := by
      rw [List.takeWhile_append_of_pos hall, List.takeWhile_cons_of_neg hbrace, List.append_nil]
    have hdrop : (name ++ '}' :: rest).dropWhile isNameChar = '}' :: rest := by
      rw [List.dropWhile_append_of_pos hall, List.dropWhile_cons_of_neg hbrace]
    obtain ⟨c, name, rfl⟩ := List.exists_cons_of_ne_nil hne
    rw [includeAt?, htake, hdrop]
    rfl

theorem isBody_of_isIdentifier {name : Text} (h : Placeholder.isIdentifier name = true) :
    IsBody name := by
  intro c hc
  have hchar := (isIdentifier_iff.mp h).2 c hc
  constructor
  · rintro rfl
    exact absurd hchar (by decide)
  · rintro rfl
    exact absurd hchar (by decide)

/-! ## The placeholders that are includes -/

/-- The template that a placeholder includes. -/
def Placeholder.included? (p : Placeholder) : Option Text :=
  if p.sigil = .template then p.identifier? else none

theorem Placeholder.included?_eq_some_iff {p : Placeholder} {name : Text} :
    p.included? = some name ↔ p = ⟨.template, name⟩ ∧ isIdentifier name = true := by
  obtain ⟨sigil, body⟩ := p
  rw [included?, identifier?]
  by_cases hsigil : sigil = .template
  · by_cases hident : isIdentifier body = true
    · simp only [hsigil, hident, if_true, Option.some.injEq, mk.injEq, true_and]
      constructor
      · rintro rfl
        exact ⟨rfl, hident⟩
      · exact fun h => h.1
    · simp only [hsigil, hident, if_true, Bool.false_eq_true, if_false, mk.injEq, true_and]
      constructor
      · intro h
        cases h
      · rintro ⟨rfl, hname⟩
        exact absurd hname hident
  · simp [hsigil]

theorem templateResolver_eq (texts : Bindings) (p : Placeholder) :
    templateResolver texts p = p.included?.bind texts.find? := by
  obtain ⟨sigil, body⟩ := p
  cases sigil <;> rfl

/-- A text begins with an include if it begins with a placeholder that is one. -/
theorem includeAt?_eq_some_iff_atStart? {t name rest : Text} :
    includeAt? t = some (name, rest) ↔
      ∃ p, Placeholder.atStart? t = some (p, rest) ∧ p.included? = some name := by
  rw [includeAt?_eq_some_iff]
  constructor
  · rintro ⟨hident, rfl⟩
    refine ⟨⟨.template, name⟩, ?_, Placeholder.included?_eq_some_iff.mpr ⟨rfl, hident⟩⟩
    refine Placeholder.atStart?_eq_some_iff.mpr ⟨isBody_of_isIdentifier hident, ?_⟩
    simp [Placeholder.raw, Sigil.char]
  · rintro ⟨p, hat, hp⟩
    obtain ⟨rfl, hident⟩ := Placeholder.included?_eq_some_iff.mp hp
    obtain ⟨-, rfl⟩ := Placeholder.atStart?_eq_some_iff.mp hat
    exact ⟨hident, by simp [Placeholder.raw, Sigil.char]⟩

theorem includeAt?_of_atStart? {t rest : Text} {p : Placeholder}
    (h : Placeholder.atStart? t = some (p, rest)) :
    includeAt? t = p.included?.map fun name => (name, rest) := by
  cases hp : p.included? with
  | some name => exact includeAt?_eq_some_iff_atStart?.mpr ⟨p, h, hp⟩
  | none =>
    refine Option.eq_none_iff_forall_not_mem.mpr fun found hfound => ?_
    obtain ⟨q, hq, hincluded⟩ := includeAt?_eq_some_iff_atStart?.mp hfound
    rw [h] at hq
    cases hq
    cases hp.symm.trans hincluded

theorem includeAt?_of_atStart?_eq_none {t : Text} (h : Placeholder.atStart? t = none) :
    includeAt? t = none := by
  refine Option.eq_none_iff_forall_not_mem.mpr fun found hfound => ?_
  obtain ⟨q, hq, -⟩ := includeAt?_eq_some_iff_atStart?.mp hfound
  cases h.symm.trans hq

theorem includeNames_eq (t : Text) :
    includeNames t = (placeholders t).filterMap Placeholder.included? := by
  induction t with
  | nil => rfl
  | cons c t ih =>
    rw [includeNames]
    cases hat : Placeholder.atStart? (c :: t) with
    | none => rw [includeAt?_of_atStart?_eq_none hat, placeholders_cons_none hat, ih]
    | some found =>
      rw [includeAt?_of_atStart? hat, placeholders_cons_some hat, List.filterMap_cons, ih]
      cases found.1.included? <;> rfl

/-! ## First appearances -/

theorem distinct_filter (p : Text → Bool) (ts : List Text) :
    distinct (ts.filter p) = (distinct ts).filter p := by
  induction ts with
  | nil => rfl
  | cons t ts ih =>
    rw [distinct]
    by_cases ht : p t = true
    · rw [List.filter_cons_of_pos ht, List.filter_cons_of_pos ht, distinct, ih, List.filter_filter,
        List.filter_filter]
      simp only [Bool.and_comm]
    · rw [List.filter_cons_of_neg ht, List.filter_cons_of_neg ht, ih, List.filter_filter]
      refine List.filter_congr fun u _ => ?_
      by_cases hu : u = t
      · simp [hu, ht]
      · simp [hu]

theorem distinct_eq_eraseDups (ts : List Text) : distinct ts = ts.eraseDups := by
  match ts with
  | [] => rfl
  | t :: ts =>
    rw [distinct, List.eraseDups_cons, ← distinct_eq_eraseDups, distinct_filter]
    rfl
termination_by ts.length
decreasing_by exact Nat.lt_succ_of_le (List.length_filter_le _ _)

/-- The store asks for the names of the includes, each one where it appears first. -/
theorem includes_eq (t : Text) : includes t = (includeNames t).eraseDups := by
  rw [← distinct_eq_eraseDups, includeNames_eq, placeholders, List.filterMap_map]
  rfl

/-! ## Filling -/

/-- The text with texts in the place of its includes, from left to right. An include without a text
stays. -/
def fillIncludes (texts : Bindings) : Text → Text
  | [] => []
  | c :: t =>
    match _h : includeAt? (c :: t) with
    | none => c :: fillIncludes texts t
    | some (name, rest) =>
      match texts.find? name with
      | none => c :: fillIncludes texts t
      | some text => text ++ fillIncludes texts rest
termination_by t => t.length
decreasing_by
  · exact Nat.lt_succ_self _
  · exact Nat.lt_succ_self _
  · obtain ⟨-, ht⟩ := includeAt?_eq_some_iff.mp ‹_›
    rw [ht]
    simp only [List.length_cons, List.length_append]
    omega

/-- The store comes to the same text by substitution. -/
theorem substitute_templateResolver (texts : Bindings) (t : Text) :
    substitute (templateResolver texts) t = fillIncludes texts t := by
  fun_induction fillIncludes texts t with
  | case1 => rfl
  | case2 c t hnone ih =>
    rw [← ih]
    cases hat : Placeholder.atStart? (c :: t) with
    | none => exact substitute_cons_none _ hat
    | some found =>
      obtain ⟨p, rest⟩ := found
      rw [includeAt?_of_atStart? hat, Option.map_eq_none_iff] at hnone
      refine substitute_cons_kept hat ?_
      rw [templateResolver_eq, hnone, Option.bind_none]
  | case3 c t name rest hsome hfind ih =>
    obtain ⟨p, hat, hp⟩ := includeAt?_eq_some_iff_atStart?.mp hsome
    rw [← ih]
    refine substitute_cons_kept hat ?_
    rw [templateResolver_eq, hp, Option.bind_some, hfind]
  | case4 c t name rest hsome text hfind ih =>
    obtain ⟨p, hat, hp⟩ := includeAt?_eq_some_iff_atStart?.mp hsome
    rw [← ih]
    refine substitute_cons_filled hat ?_
    rw [templateResolver_eq, hp, Option.bind_some, hfind]

end StaticSite
