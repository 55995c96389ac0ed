import StaticSite.Text.Basic

/-!
# Placeholders

A placeholder is a sigil, an opening brace, a body without line breaks and braces that close, and
the first closing brace on the same line. There are three families, told apart by the sigil:

* `$` includes a template,
* `@` names a variable of a page or of the site,
* `#` names a post field, or starts or ends a list block.

`Placeholder.atStart?` reads the placeholder that a text begins with. It is exact: it answers `p`
with the rest `r` when the text is the written form of `p` followed by `r`
(`Placeholder.atStart?_eq_some_iff`).
-/

namespace StaticSite

/-- The three families of placeholders. -/
inductive Sigil
  /-- A template to include, written with a dollar sign. -/
  | template
  /-- A variable, written with an at sign. -/
  | value
  /-- A post field or a list macro, written with a number sign. -/
  | post
  deriving DecidableEq, Repr, Inhabited

namespace Sigil

/-- The character that a family is written with. -/
def char : Sigil → Char
  | template => '$'
  | value => '@'
  | post => '#'

/-- The family that a character stands for. -/
def ofChar? (c : Char) : Option Sigil :=
  if c = '$' then some template
  else if c = '@' then some value
  else if c = '#' then some post
  else none

theorem ofChar?_eq_some_iff {c : Char} {s : Sigil} : ofChar? c = some s ↔ c = s.char := by
  constructor
  · intro h
    unfold ofChar? at h
    split at h
    · cases h; assumption
    · split at h
      · cases h; assumption
      · split at h
        · cases h; assumption
        · cases h
  · rintro rfl
    cases s <;> decide

end Sigil

/-- A placeholder: its family and the text between its braces. -/
structure Placeholder where
  /-- The family. -/
  sigil : Sigil
  /-- The text between the braces. -/
  body : Text
  deriving DecidableEq, Repr, Inhabited

/-- The text up to the first closing brace and the text behind that brace; `none` when the line
ends first. -/
def closeBrace? : Text → Option (Text × Text)
  | [] => none
  | c :: t =>
    if c = '}' then some ([], t)
    else if c = '\n' then none
    else (closeBrace? t).map fun found => (c :: found.1, found.2)

/-- A text that can stand between the braces of a placeholder. -/
def IsBody (body : Text) : Prop :=
  ∀ c ∈ body, c ≠ '}' ∧ c ≠ '\n'

theorem closeBrace?_eq_some_iff {t body rest : Text} :
    closeBrace? t = some (body, rest) ↔ IsBody body ∧ t = body ++ '}' :: rest := by
  induction t generalizing body with
  | nil => simp [closeBrace?]
  | cons c t ih =>
    rw [closeBrace?]
    split
    next h =>
      subst h
      constructor
      · intro h
        obtain ⟨rfl, rfl⟩ := Prod.mk.inj (Option.some.inj h)
        exact ⟨fun _ h => absurd h List.not_mem_nil, rfl⟩
      · rintro ⟨hb, h⟩
        cases body with
        | nil => simpa using h
        | cons b body =>
          have := List.head_eq_of_cons_eq h
          exact absurd this.symm (hb b List.mem_cons_self).1
    next hc =>
      split
      next hn =>
        subst hn
        constructor
        · intro h; cases h
        · rintro ⟨hb, h⟩
          cases body with
          | nil => simp at h
          | cons b body =>
            have := List.head_eq_of_cons_eq h
            exact absurd this.symm (hb b List.mem_cons_self).2
      next hn =>
        constructor
        · intro h
          obtain ⟨⟨b, r⟩, hf, h⟩ := Option.map_eq_some_iff.mp h
          obtain ⟨rfl, rfl⟩ := Prod.mk.inj h
          obtain ⟨hb, rfl⟩ := ih.mp hf
          refine ⟨fun d hd => ?_, rfl⟩
          rcases List.mem_cons.mp hd with rfl | hd
          · exact ⟨hc, hn⟩
          · exact hb d hd
        · rintro ⟨hb, h⟩
          cases body with
          | nil => exact absurd (List.head_eq_of_cons_eq h) hc
          | cons b body =>
            obtain ⟨rfl, ht⟩ := List.cons.inj h
            have := ih.mpr ⟨fun d hd => hb d (List.mem_cons_of_mem _ hd), ht⟩
            rw [this]
            rfl

namespace Placeholder

/-- The written form: sigil, opening brace, body, closing brace. -/
def raw (p : Placeholder) : Text :=
  p.sigil.char :: '{' :: p.body ++ ['}']

/-- The placeholder that a text begins with, and the text behind it. -/
def atStart? : Text → Option (Placeholder × Text)
  | c :: b :: t =>
    match Sigil.ofChar? c with
    | none => none
    | some sigil =>
      if b = '{' then (closeBrace? t).map fun found => (⟨sigil, found.1⟩, found.2) else none
  | _ => none

theorem atStart?_eq_some_iff {t rest : Text} {p : Placeholder} :
    atStart? t = some (p, rest) ↔ IsBody p.body ∧ t = p.raw ++ rest := by
  match t with
  | [] => simp [atStart?, raw]
  | [c] => simp [atStart?, raw]
  | c :: b :: t =>
    obtain ⟨sigil, body⟩ := p
    have hraw : ∀ r : Text, raw ⟨sigil, body⟩ ++ r = sigil.char :: '{' :: (body ++ '}' :: r) := by
      simp [raw]
    rw [atStart?, hraw]
    cases hs : Sigil.ofChar? c with
    | none =>
      simp only [reduceCtorEq, List.cons.injEq, false_iff, not_and]
      rintro - rfl
      rw [Sigil.ofChar?_eq_some_iff.mpr rfl] at hs
      cases hs
    | some s =>
      have hc := Sigil.ofChar?_eq_some_iff.mp hs
      have hinj (s s' : Sigil) : s.char = s'.char ↔ s = s' := by cases s <;> cases s' <;> decide
      by_cases hb : b = '{'
      · simp only [hb, ↓reduceIte, Option.map_eq_some_iff, Prod.mk.injEq, mk.injEq, Prod.exists,
          closeBrace?_eq_some_iff, List.cons.injEq, true_and, hc, hinj]
        constructor
        · rintro ⟨b', r', ⟨hb', rfl⟩, ⟨rfl, rfl⟩, rfl⟩
          exact ⟨hb', rfl, rfl⟩
        · rintro ⟨hb', rfl, rfl⟩
          exact ⟨body, rest, ⟨hb', rfl⟩, ⟨rfl, rfl⟩, rfl⟩
      · simp [hb]

/-! ## Classification -/

/-- The characters of identifiers: the ASCII letters and the hyphen. -/
def isIdentifierChar (c : Char) : Bool :=
  c.isAlpha || c == '-'

/-- Whether a name is an identifier: one or more ASCII letters and hyphens. -/
def isIdentifier (name : Text) : Bool :=
  !name.isEmpty && name.all isIdentifierChar

/-- The body, if it is an identifier. -/
def identifier? (p : Placeholder) : Option Text :=
  if isIdentifier p.body then some p.body else none

/-- The opening macro of a list block: the group whose pages are listed, and how many of them. -/
structure ListStart where
  /-- The group whose pages are listed. -/
  group : Text
  /-- The greatest number of pages listed. -/
  count : Nat
  deriving DecidableEq, Repr, Inhabited

/-- The first count that is too large for a list block. -/
def countLimit : Nat :=
  18446744073709551616

/-- The word that begins the body of a list start. -/
def listWord : Text :=
  ['l', 'i', 's', 't', ':']

/-- The body of a list end. -/
def listEndWord : Text :=
  ['l', 'i', 's', 't', ':', 'e', 'n', 'd']

/-- The group and the count of a list start. The group is one or more ASCII letters, the count one
or more digits with a value below `countLimit`. -/
def listStart? (p : Placeholder) : Option ListStart :=
  if p.sigil = .post then
    match Text.dropStart? listWord p.body with
    | none => none
    | some rest =>
      match Text.splitOnce? [':'] rest with
      | none => none
      | some (group, digits) =>
        if group.isEmpty || !group.all Char.isAlpha then none
        else
          match Text.toNat? digits with
          | none => none
          | some count => if count < countLimit then some ⟨group, count⟩ else none
  else none

/-- Whether the placeholder ends a list block. -/
def isListEnd (p : Placeholder) : Bool :=
  p.sigil = .post && p.body = listEndWord

end Placeholder

end StaticSite
