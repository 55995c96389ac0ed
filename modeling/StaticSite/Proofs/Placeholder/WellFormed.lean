import StaticSite.Proofs.Placeholder.Substitute

/-!
# Well-formed texts

A text is well-formed when each sigil in it either begins a placeholder whose body has no sigils, or
stands before a character that could not continue a placeholder. Such a text is a row of pieces that
do not depend on what stands around them (`Pieces`): characters that are no sigils, sigils with the
character behind them, and placeholders.

So well-formed texts may be put behind each other and filled into each other: scanning and
substitution go piece by piece, and filling well-formed values into a well-formed text neither makes
nor breaks a placeholder at a seam (`WellFormed.placeholders_substitute`,
`WellFormed.substitute_substitute`).
-/

namespace StaticSite

/-- Whether a character is the sigil of a family of placeholders. -/
def isSigil (c : Char) : Bool :=
  (Sigil.ofChar? c).isSome

theorem isSigil_char (s : Sigil) : isSigil s.char = true := by
  cases s <;> rfl

theorem exists_char_of_isSigil {c : Char} (h : isSigil c = true) : ∃ s : Sigil, c = s.char := by
  obtain ⟨s, hs⟩ := Option.isSome_iff_exists.mp h
  exact ⟨s, Sigil.ofChar?_eq_some_iff.mp hs⟩

/-- A text without sigils. -/
def SigilFree (t : Text) : Prop :=
  ∀ c ∈ t, isSigil c = false

theorem all_not_isSigil_iff {t : Text} : (t.all fun c => !isSigil c) = true ↔ SigilFree t := by
  simp [SigilFree]

instance (t : Text) : Decidable (SigilFree t) :=
  decidable_of_iff _ all_not_isSigil_iff

theorem SigilFree.append {s t : Text} (hs : SigilFree s) (ht : SigilFree t) :
    SigilFree (s ++ t) :=
  List.forall_mem_append.mpr ⟨hs, ht⟩

theorem isBody_iff {body : Text} :
    (body.all fun c => c != '}' && c != '\n') = true ↔ IsBody body := by
  simp [IsBody]

instance (body : Text) : Decidable (IsBody body) :=
  decidable_of_iff _ isBody_iff

/-- What may follow a sigil: a character that is neither a sigil nor an opening brace, or a body
without sigils between braces that close on the same line. -/
def FollowsSigil (after : Text) : Prop :=
  (∃ c rest, after = c :: rest ∧ isSigil c = false ∧ c ≠ '{') ∨
    ∃ body rest, after = '{' :: (body ++ '}' :: rest) ∧ IsBody body ∧ SigilFree body

/-- Each sigil in the text is followed by what may follow a sigil. -/
def WellFormed (t : Text) : Prop :=
  ∀ before c after, t = before ++ c :: after → isSigil c = true → FollowsSigil after

/-! ## Deciding well-formedness -/

/-- Decides `FollowsSigil`. -/
def followsSigil : Text → Bool
  | [] => false
  | c :: t =>
    if c = '{' then
      match closeBrace? t with
      | some (body, _) => body.all fun d => !isSigil d
      | none => false
    else !isSigil c

theorem followsSigil_iff {after : Text} : followsSigil after = true ↔ FollowsSigil after := by
  cases after with
  | nil => simp [followsSigil, FollowsSigil]
  | cons c t =>
    by_cases hc : c = '{'
    · subst hc
      constructor
      · intro h
        rw [followsSigil, if_pos rfl] at h
        cases hclose : closeBrace? t with
        | none =>
          rw [hclose] at h
          cases h
        | some found =>
          obtain ⟨hbody, ht⟩ := closeBrace?_eq_some_iff.mp hclose
          rw [hclose] at h
          exact .inr ⟨found.1, found.2, by rw [ht], hbody, all_not_isSigil_iff.mp h⟩
      · rintro (⟨d, rest, heq, -, hd⟩ | ⟨body, rest, heq, hbody, hno⟩)
        · exact absurd (List.head_eq_of_cons_eq heq).symm hd
        · have hclose := closeBrace?_eq_some_iff.mpr ⟨hbody, List.tail_eq_of_cons_eq heq⟩
          rw [followsSigil, if_pos rfl, hclose]
          exact all_not_isSigil_iff.mpr hno
    · rw [followsSigil, if_neg hc]
      constructor
      · intro h
        exact .inl ⟨c, t, rfl, by simpa using h, hc⟩
      · rintro (⟨d, rest, heq, hd, -⟩ | ⟨body, rest, heq, -, -⟩)
        · rw [List.head_eq_of_cons_eq heq, hd]
          rfl
        · exact absurd (List.head_eq_of_cons_eq heq) hc

instance (after : Text) : Decidable (FollowsSigil after) :=
  decidable_of_iff _ followsSigil_iff

theorem WellFormed.nil : WellFormed [] := by
  intro before c after h
  cases before <;> simp at h

theorem wellFormed_cons_iff {c : Char} {t : Text} :
    WellFormed (c :: t) ↔ (isSigil c = true → FollowsSigil t) ∧ WellFormed t := by
  constructor
  · intro h
    refine ⟨fun hc => h [] c t rfl hc, fun before d after ht hd => ?_⟩
    exact h (c :: before) d after (by rw [ht, List.cons_append]) hd
  · rintro ⟨hc, ht⟩ before d after heq hd
    cases before with
    | nil =>
      obtain ⟨rfl, rfl⟩ := List.cons.inj heq
      exact hc hd
    | cons b before =>
      obtain ⟨-, heq⟩ := List.cons.inj heq
      exact ht before d after heq hd

instance decidableWellFormed : (t : Text) → Decidable (WellFormed t)
  | [] => isTrue WellFormed.nil
  | _ :: t =>
    have := decidableWellFormed t
    decidable_of_iff _ wellFormed_cons_iff.symm

example : WellFormed "a $ @{b} #c".toList := by decide

example : ¬ WellFormed "@{a @{b}}".toList := by decide

/-! ## Well-formed texts and their pieces -/

/-- A placeholder that holds no further sigil. -/
structure Placeholder.Plain (p : Placeholder) : Prop where
  /-- The body fits between braces. -/
  isBody : IsBody p.body
  /-- The body has no sigils. -/
  sigilFree : SigilFree p.body

/-- The texts that are put together from pieces which nothing around them can change. -/
inductive Pieces : Text → Prop
  /-- No piece. -/
  | nil : Pieces []
  /-- A character that is no sigil. -/
  | plain {c : Char} {t : Text} (hc : isSigil c = false) (ht : Pieces t) : Pieces (c :: t)
  /-- A sigil that begins no placeholder. -/
  | lone {c d : Char} {t : Text} (hc : isSigil c = true) (hd : isSigil d = false) (hb : d ≠ '{')
      (ht : Pieces t) : Pieces (c :: d :: t)
  /-- A placeholder. -/
  | placeholder {p : Placeholder} {t : Text} (hp : p.Plain) (ht : Pieces t) : Pieces (p.raw ++ t)

theorem WellFormed.of_append_right {s t : Text} (h : WellFormed (s ++ t)) : WellFormed t := by
  intro before c after ht hc
  exact h (s ++ before) c after (by rw [ht, List.append_assoc]) hc

/-- What stands before a sigil in a well-formed text is well-formed. -/
theorem WellFormed.of_append_sigil {s t : Text} {c : Char} (h : WellFormed (s ++ c :: t))
    (hc : isSigil c = true) : WellFormed s := by
  intro before d after hs hd
  have happ : s ++ c :: t = before ++ d :: (after ++ c :: t) := by
    rw [hs, List.append_assoc, List.cons_append]
  rcases h before d _ happ hd with ⟨e, rest, heq, he, hb⟩ | ⟨body, rest, heq, hbody, hno⟩
  · left
    cases after with
    | nil =>
      obtain ⟨rfl, -⟩ := List.cons.inj heq
      rw [hc] at he
      cases he
    | cons a after =>
      obtain ⟨rfl, -⟩ := List.cons.inj heq
      exact ⟨a, after, rfl, he, hb⟩
  · right
    -- the sigil `c` is no part of the body, so it stands behind the closing brace
    cases after with
    | nil =>
      obtain ⟨rfl, -⟩ := List.cons.inj heq
      exact absurd hc (by decide)
    | cons a after =>
      obtain ⟨rfl, hrest⟩ := List.cons.inj heq
      rcases List.append_eq_append_iff.mp hrest with ⟨mid, hbody', hrest⟩ | ⟨mid, hafter, hrest⟩
      · cases mid with
        | nil =>
          obtain ⟨rfl, -⟩ := List.cons.inj hrest
          exact absurd hc (by decide)
        | cons m mid =>
          obtain ⟨rfl, -⟩ := List.cons.inj hrest
          have := hno c (by rw [hbody']; simp)
          rw [hc] at this
          cases this
      · cases mid with
        | nil =>
          obtain ⟨rfl, -⟩ := List.cons.inj hrest
          exact absurd hc (by decide)
        | cons m mid =>
          obtain ⟨rfl, -⟩ := List.cons.inj hrest
          exact ⟨body, mid, by rw [hafter], hbody, hno⟩

theorem WellFormed.cons_plain {c : Char} {t : Text} (hc : isSigil c = false) (ht : WellFormed t) :
    WellFormed (c :: t) :=
  wellFormed_cons_iff.mpr ⟨fun h => absurd (hc.symm.trans h) Bool.false_ne_true, ht⟩

theorem WellFormed.append_plain {s t : Text} (hs : SigilFree s)
    (ht : WellFormed t) : WellFormed (s ++ t) := by
  induction s with
  | nil => exact ht
  | cons c s ih =>
    exact .cons_plain (hs c List.mem_cons_self) (ih fun d hd => hs d (List.mem_cons_of_mem _ hd))

theorem WellFormed.cons_sigil {c : Char} {t : Text} (h : FollowsSigil t) (ht : WellFormed t) :
    WellFormed (c :: t) :=
  wellFormed_cons_iff.mpr ⟨fun _ => h, ht⟩

/-- A placeholder in a well-formed text parts it into well-formed texts. -/
theorem WellFormed.of_append_raw {s t : Text} {p : Placeholder}
    (h : WellFormed (s ++ (p.raw ++ t))) : WellFormed s ∧ WellFormed t := by
  refine ⟨?_, h.of_append_right.of_append_right⟩
  rw [p.raw_append] at h
  exact h.of_append_sigil (isSigil_char p.sigil)

theorem Placeholder.Plain.sigilFree_tail {p : Placeholder} (hp : p.Plain) :
    SigilFree ('{' :: p.body ++ ['}']) := by
  intro c hc
  rcases List.mem_append.mp hc with hc | hc
  · rcases List.mem_cons.mp hc with rfl | hc
    · decide
    · exact hp.sigilFree c hc
  · rw [List.mem_singleton.mp hc]
    decide

theorem Pieces.wellFormed {t : Text} (h : Pieces t) : WellFormed t := by
  induction h with
  | nil => exact .nil
  | plain hc _ ih => exact .cons_plain hc ih
  | lone _ hd hb _ ih => exact .cons_sigil (.inl ⟨_, _, rfl, hd, hb⟩) (.cons_plain hd ih)
  | @placeholder p t hp _ ih =>
    have htail : WellFormed ('{' :: p.body ++ ['}'] ++ t) := .append_plain hp.sigilFree_tail ih
    have hfollows : FollowsSigil ('{' :: p.body ++ ['}'] ++ t) :=
      .inr ⟨p.body, t, by simp, hp.isBody, hp.sigilFree⟩
    exact .cons_sigil hfollows htail

/-- Every well-formed text is put together from pieces. -/
theorem WellFormed.pieces {t : Text} (h : WellFormed t) : Pieces t := by
  match t with
  | [] => exact .nil
  | c :: u =>
    have hu : WellFormed u := WellFormed.of_append_right (s := [c]) h
    cases hc : isSigil c with
    | false => exact .plain hc hu.pieces
    | true =>
      rcases h [] c u rfl hc with ⟨d, rest, hrest, hd, hb⟩ | ⟨body, rest, hrest, hbody, hno⟩
      · have hlen : rest.length < (c :: u).length := by
          rw [hrest, List.length_cons, List.length_cons]
          omega
        have hwf : WellFormed rest := by
          rw [hrest] at hu
          exact WellFormed.of_append_right (s := [d]) hu
        rw [hrest]
        exact .lone hc hd hb hwf.pieces
      · have hlen : rest.length < (c :: u).length := by
          rw [hrest, List.length_cons, List.length_cons, List.length_append, List.length_cons]
          omega
        have hwf : WellFormed rest :=
          WellFormed.of_append_right (s := '{' :: (body ++ ['}'])) (by simpa [hrest] using hu)
        obtain ⟨s, rfl⟩ := exists_char_of_isSigil hc
        have hp : Placeholder.Plain ⟨s, body⟩ := ⟨hbody, hno⟩
        rw [hrest, ← Placeholder.raw_append ⟨s, body⟩ rest]
        exact .placeholder hp hwf.pieces
termination_by t.length

theorem WellFormed.append {s t : Text} (hs : WellFormed s) (ht : WellFormed t) :
    WellFormed (s ++ t) := by
  have happ : Pieces (s ++ t) := by
    have h := hs.pieces
    clear hs
    induction h with
    | nil => exact ht.pieces
    | plain hc _ ih => exact .plain hc ih
    | lone hc hd hb _ ih => exact .lone hc hd hb ih
    | placeholder hp _ ih =>
      rw [List.append_assoc]
      exact .placeholder hp ih
  exact happ.wellFormed

theorem WellFormed.raw {p : Placeholder} (hp : p.Plain) : WellFormed p.raw := by
  have h := (Pieces.placeholder hp .nil).wellFormed
  rwa [List.append_nil] at h

/-! ## Scanning -/

theorem atStart?_of_not_sigil {c : Char} (hc : isSigil c = false) (t : Text) :
    Placeholder.atStart? (c :: t) = none := by
  have hnone : Sigil.ofChar? c = none := Option.isNone_iff_eq_none.mp (by simpa [isSigil] using hc)
  exact atStart?_of_ofChar?_eq_none hnone t

theorem atStart?_of_not_brace {d : Char} (hb : d ≠ '{') (c : Char) (t : Text) :
    Placeholder.atStart? (c :: d :: t) = none := by
  rw [Placeholder.atStart?]
  cases Sigil.ofChar? c with
  | none => rfl
  | some s => exact if_neg hb

theorem Placeholder.Plain.atStart?_raw {p : Placeholder} (hp : p.Plain) (t : Text) :
    Placeholder.atStart? (p.raw ++ t) = some (p, t) :=
  Placeholder.atStart?_eq_some_iff.mpr ⟨hp.isBody, rfl⟩

/-- A placeholder without inner sigils has no sigil and no line break behind its own sigil. -/
theorem Placeholder.Plain.not_mem_tail {p : Placeholder} (hp : p.Plain) {c : Char}
    (hc : isSigil c = true ∨ c = '\n') : c ∉ '{' :: p.body ++ ['}'] := by
  intro hmem
  rcases hc with hsigil | rfl
  · have hfree := hp.sigilFree_tail c hmem
    rw [hsigil] at hfree
    cases hfree
  · rcases List.mem_append.mp hmem with h | h
    · rcases List.mem_cons.mp h with h | h
      · exact absurd h (by decide)
      · exact (hp.isBody _ h).2 rfl
    · exact absurd (List.mem_singleton.mp h) (by decide)

/-- A placeholder without inner sigils reaches into no text that begins with a sigil or a line break.
-/
theorem Placeholder.Plain.raw_ne_append {p : Placeholder} (hp : p.Plain) {c : Char}
    (hc : isSigil c = true ∨ c = '\n') {x : Text} (hx : x ≠ []) (y : Text) :
    p.raw ≠ x ++ c :: y := by
  intro hraw
  obtain ⟨d, x, rfl⟩ := List.exists_cons_of_ne_nil hx
  have htail : '{' :: p.body ++ ['}'] = x ++ c :: y := (List.cons.inj hraw).2
  refine hp.not_mem_tail hc ?_
  rw [htail]
  exact List.mem_append_right _ List.mem_cons_self

theorem scanFrom_append_plain {s : Text} (hs : SigilFree s) (offset : Nat)
    (t : Text) : scanFrom offset (s ++ t) = scanFrom (offset + Text.utf8Size s) t := by
  induction s generalizing offset with
  | nil => rfl
  | cons c s ih =>
    rw [List.cons_append, scanFrom_cons_none (atStart?_of_not_sigil (hs c List.mem_cons_self) _),
      ih fun d hd => hs d (List.mem_cons_of_mem _ hd)]
    rw [Text.utf8Size_cons, Nat.add_assoc]

/-- The scan of a placeholder without inner sigils and a text behind it. -/
theorem scanFrom_raw_append {p : Placeholder} (hp : p.Plain) (offset : Nat) (t : Text) :
    scanFrom offset (p.raw ++ t) = ⟨p, offset⟩ :: scanFrom (offset + Text.utf8Size p.raw) t := by
  have hat := hp.atStart?_raw t
  have hsplit : p.raw ++ t = p.sigil.char :: ('{' :: p.body ++ ['}'] ++ t) := rfl
  rw [hsplit] at hat ⊢
  rw [scanFrom_cons_some hat, scanFrom_append_plain hp.sigilFree_tail]
  rw [Nat.add_assoc, ← Text.utf8Size_cons]
  rfl

/-- Of the placeholders without inner sigils, two texts behind each other have what the one and the
other have if the second one begins with a sigil: none of them reaches over the seam. -/
theorem filterMap_scanFrom_append_raw {α : Type} {f : Occurrence → Option α}
    (hf : ∀ o, (f o).isSome → o.placeholder.Plain) (offset : Nat) (s : Text) (p : Placeholder)
    (t : Text) :
    (scanFrom offset (s ++ (p.raw ++ t))).filterMap f =
      (scanFrom offset s).filterMap f ++
        (scanFrom (offset + Text.utf8Size s) (p.raw ++ t)).filterMap f := by
  induction s generalizing offset with
  | nil => rfl
  | cons c s ih =>
    have ih := ih (offset + c.utf8Size)
    rw [Nat.add_assoc, ← Text.utf8Size_cons] at ih
    rw [List.cons_append]
    cases hself : Placeholder.atStart? (c :: s) with
    | some found =>
      have hwhole : Placeholder.atStart? (c :: (s ++ (p.raw ++ t))) = _ :=
        Placeholder.atStart?_append hself (p.raw ++ t)
      rw [scanFrom_cons_some hself, scanFrom_cons_some hwhole, List.filterMap_cons,
        List.filterMap_cons, ih]
      cases f ⟨found.1, offset⟩ <;> rfl
    | none =>
      rw [scanFrom_cons_none hself]
      cases hwhole : Placeholder.atStart? (c :: (s ++ (p.raw ++ t))) with
      | none => rw [scanFrom_cons_none hwhole, ih]
      | some found =>
        obtain ⟨q, rest⟩ := found
        obtain ⟨y, hraw, hy, ht⟩ := Placeholder.exists_raw_eq_append hself hwhole
        obtain ⟨d, y, rfl⟩ := List.exists_cons_of_ne_nil hy
        obtain rfl : p.sigil.char = d := List.head_eq_of_cons_eq ht
        have hnone : f ⟨q, offset⟩ = none := by
          rw [← Option.not_isSome_iff_eq_none]
          intro hsome
          exact (hf _ hsome).raw_ne_append (.inl (isSigil_char _)) (List.cons_ne_nil _ _) y hraw
        rw [scanFrom_cons_some hwhole, List.filterMap_cons, hnone, ih]

theorem Closed.of_plain {s : Text} (hs : SigilFree s) : Closed s := by
  intro offset t
  have hself := scanFrom_append_plain hs offset []
  rw [List.append_nil] at hself
  rw [scanFrom_append_plain hs, hself]
  rfl

theorem Closed.raw {p : Placeholder} (hp : p.Plain) : Closed p.raw := by
  intro offset t
  have hself := scanFrom_raw_append hp offset []
  rw [List.append_nil] at hself
  rw [scanFrom_raw_append hp, hself]
  rfl

theorem WellFormed.closed {t : Text} (ht : WellFormed t) : Closed t := by
  have h := ht.pieces
  clear ht
  induction h with
  | nil => exact .nil
  | plain hc _ ih => exact ih.cons fun u => atStart?_of_not_sigil hc _
  | lone hc hd hb _ ih =>
    have hcons := ih.cons fun u => atStart?_of_not_sigil hd _
    exact hcons.cons fun u => atStart?_of_not_brace hb _ _
  | placeholder hp _ ih => exact (Closed.raw hp).append ih

theorem placeholders_cons_plain {c : Char} (hc : isSigil c = false) (t : Text) :
    placeholders (c :: t) = placeholders t :=
  placeholders_cons_none (atStart?_of_not_sigil hc t)

theorem placeholders_cons_lone {d : Char} (hd : isSigil d = false) (hb : d ≠ '{') (c : Char)
    (t : Text) : placeholders (c :: d :: t) = placeholders t := by
  rw [placeholders_cons_none (atStart?_of_not_brace hb c t), placeholders_cons_plain hd]

theorem placeholders_append_plain {s : Text} (hs : SigilFree s) (t : Text) :
    placeholders (s ++ t) = placeholders t := by
  rw [placeholders, scan_eq, scanFrom_append_plain hs, map_placeholder_scanFrom]

theorem placeholders_raw_append {p : Placeholder} (hp : p.Plain) (t : Text) :
    placeholders (p.raw ++ t) = p :: placeholders t := by
  rw [placeholders, scan_eq, scanFrom_raw_append hp, List.map_cons, map_placeholder_scanFrom]

theorem placeholders_raw {p : Placeholder} (hp : p.Plain) : placeholders p.raw = [p] := by
  have h := placeholders_raw_append hp []
  rwa [List.append_nil] at h

theorem WellFormed.placeholders_append {s : Text} (hs : WellFormed s) (t : Text) :
    placeholders (s ++ t) = placeholders s ++ placeholders t :=
  hs.closed.placeholders_append t

/-! ## Substitution -/

theorem substitute_cons_plain (resolve : Resolver) {c : Char} (hc : isSigil c = false) (t : Text) :
    substitute resolve (c :: t) = c :: substitute resolve t :=
  substitute_cons_none resolve (atStart?_of_not_sigil hc t)

theorem substitute_cons_lone (resolve : Resolver) {d : Char} (hd : isSigil d = false)
    (hb : d ≠ '{') (c : Char) (t : Text) :
    substitute resolve (c :: d :: t) = c :: d :: substitute resolve t := by
  rw [substitute_cons_none resolve (atStart?_of_not_brace hb c t), substitute_cons_plain resolve hd]

theorem substitute_append_plain (resolve : Resolver) {s : Text}
    (hs : SigilFree s) (t : Text) :
    substitute resolve (s ++ t) = s ++ substitute resolve t := by
  induction s with
  | nil => rfl
  | cons c s ih =>
    rw [List.cons_append, substitute_cons_plain resolve (hs c List.mem_cons_self),
      ih fun d hd => hs d (List.mem_cons_of_mem _ hd), List.cons_append]

/-- A placeholder without inner sigils is replaced by its value, or stands if it has none. -/
theorem substitute_raw_append (resolve : Resolver) {p : Placeholder} (hp : p.Plain) (t : Text) :
    substitute resolve (p.raw ++ t) = (resolve p).getD p.raw ++ substitute resolve t := by
  have hat := hp.atStart?_raw t
  have hsplit : p.raw ++ t = p.sigil.char :: ('{' :: p.body ++ ['}'] ++ t) := rfl
  rw [hsplit] at hat ⊢
  cases hr : resolve p with
  | none =>
    rw [substitute_cons_kept hat hr, substitute_append_plain resolve hp.sigilFree_tail]
    rfl
  | some value => rw [substitute_cons_filled hat hr, Option.getD_some]

theorem substitute_raw (resolve : Resolver) {p : Placeholder} (hp : p.Plain) :
    substitute resolve p.raw = (resolve p).getD p.raw := by
  have h := substitute_raw_append resolve hp []
  rwa [List.append_nil, substitute_nil, List.append_nil] at h

/-- Substitution goes piece by piece, so it may be done in two parts of a text apart. -/
theorem WellFormed.substitute_append {s : Text} (hs : WellFormed s) (resolve : Resolver)
    (t : Text) : substitute resolve (s ++ t) = substitute resolve s ++ substitute resolve t := by
  have h := hs.pieces
  clear hs
  induction h with
  | nil => rfl
  | plain hc _ ih =>
    rw [List.cons_append, substitute_cons_plain resolve hc, substitute_cons_plain resolve hc, ih,
      List.cons_append]
  | lone hc hd hb _ ih =>
    rw [List.cons_append, List.cons_append, substitute_cons_lone resolve hd hb,
      substitute_cons_lone resolve hd hb, ih, List.cons_append, List.cons_append]
  | placeholder hp _ ih =>
    rw [List.append_assoc, substitute_raw_append resolve hp, substitute_raw_append resolve hp, ih,
      List.append_assoc]

/-- Filling well-formed values into a well-formed text leaves it well-formed. -/
theorem WellFormed.substitute {t : Text} (ht : WellFormed t) {resolve : Resolver}
    (hr : ∀ p value, resolve p = some value → WellFormed value) :
    WellFormed (substitute resolve t) := by
  have h := ht.pieces
  clear ht
  induction h with
  | nil => exact .nil
  | plain hc _ ih =>
    rw [substitute_cons_plain resolve hc]
    exact .cons_plain hc ih
  | lone hc hd hb _ ih =>
    rw [substitute_cons_lone resolve hd hb]
    exact .cons_sigil (.inl ⟨_, _, rfl, hd, hb⟩) (.cons_plain hd ih)
  | @placeholder p t hp _ ih =>
    rw [substitute_raw_append resolve hp]
    cases hv : resolve p with
    | none => exact (WellFormed.raw hp).append ih
    | some value => exact (hr p value hv).append ih

/-- The placeholders after filling in a well-formed text: those of the values, and those that have
none. No seam makes a new one. -/
theorem WellFormed.placeholders_substitute {t : Text} (ht : WellFormed t) {resolve : Resolver}
    (hr : ∀ p value, resolve p = some value → WellFormed value) :
    placeholders (StaticSite.substitute resolve t) =
      (placeholders t).flatMap fun p =>
        match resolve p with
        | some value => placeholders value
        | none => [p] := by
  have h := ht.pieces
  clear ht
  induction h with
  | nil => rfl
  | plain hc _ ih =>
    rw [substitute_cons_plain resolve hc, placeholders_cons_plain hc, placeholders_cons_plain hc,
      ih]
  | lone hc hd hb _ ih =>
    rw [substitute_cons_lone resolve hd hb, placeholders_cons_lone hd hb,
      placeholders_cons_lone hd hb, ih]
  | @placeholder p t hp _ ih =>
    rw [substitute_raw_append resolve hp, placeholders_raw_append hp, List.flatMap_cons]
    cases hv : resolve p with
    | none => rw [Option.getD_none, placeholders_raw_append hp, ih]; rfl
    | some value =>
      rw [Option.getD_some, (hr p value hv).placeholders_append, ih]

/-! ## What all placeholders have in common -/

/-- A well-formed text whose placeholders all have a property. -/
structure WellFormedWith (Q : Placeholder → Prop) (t : Text) : Prop where
  /-- The text is well-formed. -/
  wellFormed : WellFormed t
  /-- Its placeholders have the property. -/
  forall_placeholders : ∀ q ∈ placeholders t, Q q

namespace WellFormedWith

variable {Q R : Placeholder → Prop} {s t : Text}

instance [DecidablePred Q] : Decidable (WellFormedWith Q t) :=
  decidable_of_iff (WellFormed t ∧ ∀ q ∈ placeholders t, Q q)
    ⟨fun ⟨hwf, hQ⟩ => ⟨hwf, hQ⟩, fun ⟨hwf, hQ⟩ => ⟨hwf, hQ⟩⟩

theorem mono (h : WellFormedWith Q t) (himp : ∀ q, Q q → R q) : WellFormedWith R t :=
  ⟨h.wellFormed, fun q hq => himp q (h.forall_placeholders q hq)⟩

theorem nil : WellFormedWith Q [] :=
  ⟨.nil, fun _ hq => absurd hq List.not_mem_nil⟩

theorem append (hs : WellFormedWith Q s) (ht : WellFormedWith Q t) : WellFormedWith Q (s ++ t) where
  wellFormed := hs.wellFormed.append ht.wellFormed
  forall_placeholders := by
    rw [hs.wellFormed.placeholders_append]
    exact List.forall_mem_append.mpr ⟨hs.forall_placeholders, ht.forall_placeholders⟩

theorem flatMap {α : Type} {f : α → Text} {xs : List α} (h : ∀ x ∈ xs, WellFormedWith Q (f x)) :
    WellFormedWith Q (xs.flatMap f) := by
  induction xs with
  | nil => exact nil
  | cons x xs ih =>
    exact (h x List.mem_cons_self).append (ih fun y hy => h y (List.mem_cons_of_mem _ hy))

theorem of_plain (h : SigilFree t) : WellFormedWith Q t := by
  have hwf := WellFormed.append_plain h .nil
  have hnone := placeholders_append_plain h []
  rw [List.append_nil] at hwf hnone
  refine ⟨hwf, fun q hq => ?_⟩
  rw [hnone] at hq
  exact absurd hq List.not_mem_nil

/-- The placeholders after filling in are some of the text and of the values. -/
theorem substitute (ht : WellFormedWith Q t) {resolve : Resolver}
    (hr : ∀ p value, resolve p = some value → WellFormedWith Q value) :
    WellFormedWith Q (StaticSite.substitute resolve t) where
  wellFormed := ht.wellFormed.substitute fun p value h => (hr p value h).wellFormed
  forall_placeholders := by
    rw [ht.wellFormed.placeholders_substitute fun p value h => (hr p value h).wellFormed]
    intro q hq
    obtain ⟨p, hp, hq⟩ := List.mem_flatMap.mp hq
    cases hv : resolve p with
    | some value =>
      rw [hv] at hq
      exact (hr p value hv).forall_placeholders q hq
    | none =>
      rw [hv] at hq
      rw [List.mem_singleton.mp hq]
      exact ht.forall_placeholders p hp

end WellFormedWith

/-- A well-formed text without placeholders. -/
abbrev Inert (t : Text) : Prop :=
  WellFormedWith (fun _ => False) t

theorem Inert.substitute_eq {t : Text} (h : Inert t) (resolve : Resolver) :
    substitute resolve t = t :=
  substitute_eq_self fun q hq => (h.forall_placeholders q hq).elim

section Inert

variable {resolve : Resolver} (hr : ∀ p value, resolve p = some value → Inert value)

include hr

end Inert

end StaticSite
