import StaticSite.Markdown.CodeBlocks

/-!
# What becomes of the events of a document

Read from left to right, the events of a document are a row of pieces: code blocks that name a
language, each through its end or through the end of the document, and single events that are kept
(`Reads`). There is exactly one way to read them so, and replacing the code blocks makes one event
of each piece (`replaceCodeBlocks_reads`).

The pass can also be made by two loops that share a counter, one for the document and one inside of
it for the block that is open. The counter rises with each turn of either loop, so they come to an
end, and they come to the same events (`replaceFrom_eq`).
-/

namespace StaticSite.Markdown

/-! ## Pieces of a document -/

/-- What one event is made of. -/
inductive Piece
  /-- An event that stays as it is. -/
  | kept (e : Event)
  /-- A code block that names a language, with the events between its start and its end. -/
  | block (language : Text) (inside : List Event)
  deriving DecidableEq, Repr

/-- The code in the events of a block: their texts, one behind the other. -/
def codeOf : List Event → Text
  | [] => []
  | .text t :: es => t ++ codeOf es
  | _ :: es => codeOf es

/-- The event that a piece becomes. -/
def Piece.event (highlight : (language code : Text) → Text) : Piece → Event
  | .kept e => e
  | .block language inside => .html (highlight language (codeOf inside))

/-- An event that starts a code block between fences with a language. -/
def StartsBlock (language : Text) (e : Event) : Prop :=
  e = .start (.codeBlock (.fenced language)) ∧ language ≠ []

/-- An event that ends a code block of any kind. -/
def EndsBlock (e : Event) : Prop :=
  ∃ kind, e = .finish (.codeBlock kind)

/-- The events of a document, read from left to right as pieces. -/
inductive Reads : List Event → List Piece → Prop
  /-- Nothing is left. -/
  | nil : Reads [] []
  /-- An event outside of the code blocks that name a language. -/
  | kept {e : Event} {es : List Event} {ps : List Piece} (h : ∀ language, ¬ StartsBlock language e)
      (hrest : Reads es ps) : Reads (e :: es) (.kept e :: ps)
  /-- A code block that reaches through the next end of one; reading goes on behind it. -/
  | closed {e close : Event} {language : Text} {inside es : List Event} {ps : List Piece}
      (h : StartsBlock language e) (hinside : ∀ x ∈ inside, ¬ EndsBlock x)
      (hclose : EndsBlock close) (hrest : Reads es ps) :
      Reads (e :: (inside ++ close :: es)) (.block language inside :: ps)
  /-- A code block that is not closed. -/
  | unclosed {e : Event} {language : Text} {inside : List Event}
      (h : StartsBlock language e) (hinside : ∀ x ∈ inside, ¬ EndsBlock x) :
      Reads (e :: inside) [.block language inside]

/-! ## What the pass looks at -/

theorem namedLanguage?_eq_some_iff {e : Event} {language : Text} :
    namedLanguage? e = some language ↔ StartsBlock language e := by
  unfold namedLanguage? StartsBlock
  split
  · next other =>
    cases other with
    | nil => simp
    | cons c cs =>
      simp only [List.isEmpty_cons, Bool.false_eq_true, if_false, Option.some.injEq,
        Event.start.injEq, Element.codeBlock.injEq, CodeKind.fenced.injEq]
      constructor
      · rintro rfl
        exact ⟨rfl, List.cons_ne_nil _ _⟩
      · exact fun h => h.1
  · next hother =>
    simp only [reduceCtorEq, false_iff, not_and]
    rintro rfl
    exact absurd rfl (hother language)

theorem namedLanguage?_eq_none_iff {e : Event} :
    namedLanguage? e = none ↔ ∀ language, ¬ StartsBlock language e := by
  simp only [Option.eq_none_iff_forall_ne_some, ne_eq, namedLanguage?_eq_some_iff]

theorem endsCodeBlock_iff {e : Event} : endsCodeBlock e = true ↔ EndsBlock e := by
  unfold endsCodeBlock EndsBlock
  split
  · next kind => exact iff_of_true rfl ⟨kind, rfl⟩
  · next hother => exact iff_of_false Bool.false_ne_true fun ⟨kind, h⟩ => hother kind h

theorem codeOf_cons (e : Event) (es : List Event) : codeOf (e :: es) = codeText e ++ codeOf es := by
  unfold codeText
  split
  · rfl
  · next hother =>
    rw [codeOf, List.nil_append]
    exact hother

/-! ## Where a block ends -/

/-- A block goes on through the next end of one, or through the end of the document. -/
theorem open_or_closed (es : List Event) :
    (∀ x ∈ es, ¬ EndsBlock x) ∨
      ∃ inside close rest, es = inside ++ close :: rest ∧
        (∀ x ∈ inside, ¬ EndsBlock x) ∧ EndsBlock close := by
  induction es with
  | nil => exact .inl fun x hx => absurd hx List.not_mem_nil
  | cons e es ih =>
    by_cases hend : EndsBlock e
    · exact .inr ⟨[], e, es, rfl, fun x hx => absurd hx List.not_mem_nil, hend⟩
    · rcases ih with hopen | ⟨inside, close, rest, rfl, hinside, hclose⟩
      · exact .inl (List.forall_mem_cons.mpr ⟨hend, hopen⟩)
      · exact .inr ⟨e :: inside, close, rest, rfl, List.forall_mem_cons.mpr ⟨hend, hinside⟩, hclose⟩

/-- The next end of a block is one event only. -/
theorem close_unique {inside inside' es es' : List Event} {close close' : Event}
    (hinside : ∀ x ∈ inside, ¬ EndsBlock x) (hclose : EndsBlock close)
    (hinside' : ∀ x ∈ inside', ¬ EndsBlock x) (hclose' : EndsBlock close')
    (h : inside ++ close :: es = inside' ++ close' :: es') : inside = inside' ∧ es = es' := by
  induction inside generalizing inside' with
  | nil =>
    cases inside' with
    | nil => exact ⟨rfl, (List.cons.inj h).2⟩
    | cons x inside' =>
      obtain ⟨rfl, -⟩ := List.cons.inj h
      exact absurd hclose (hinside' close List.mem_cons_self)
  | cons x inside ih =>
    obtain ⟨hx, hinside⟩ := List.forall_mem_cons.mp hinside
    cases inside' with
    | nil =>
      obtain ⟨rfl, -⟩ := List.cons.inj h
      exact absurd hclose' hx
    | cons x' inside' =>
      obtain ⟨rfl, htail⟩ := List.cons.inj h
      obtain ⟨rfl, rfl⟩ := ih hinside (List.forall_mem_cons.mp hinside').2 htail
      exact ⟨rfl, rfl⟩

/-- A document that is open to its end has no end of a block. -/
theorem not_closed_of_open {inside es : List Event} {close : Event} (hclose : EndsBlock close)
    (hopen : ∀ x ∈ inside ++ close :: es, ¬ EndsBlock x) : False :=
  hopen close (List.mem_append_right _ List.mem_cons_self) hclose

/-! ## One reading -/

theorem StartsBlock.unique {e : Event} {language other : Text} (h : StartsBlock language e)
    (h' : StartsBlock other e) : language = other := by
  have heq := h.1.symm.trans h'.1
  cases heq
  rfl

/-- Every document can be read as pieces. -/
theorem exists_reads (es : List Event) : ∃ ps, Reads es ps := by
  match es with
  | [] => exact ⟨[], .nil⟩
  | e :: es =>
    by_cases hlanguage : ∃ language, StartsBlock language e
    · obtain ⟨language, hlanguage⟩ := hlanguage
      rcases open_or_closed es with hopen | ⟨inside, close, rest, rfl, hinside, hclose⟩
      · exact ⟨_, .unclosed hlanguage hopen⟩
      · obtain ⟨ps, hps⟩ := exists_reads rest
        exact ⟨_, .closed hlanguage hinside hclose hps⟩
    · obtain ⟨ps, hps⟩ := exists_reads es
      exact ⟨_, .kept (not_exists.mp hlanguage) hps⟩
termination_by es.length

theorem Reads.unique {es : List Event} {ps qs : List Piece} (h : Reads es ps) (h' : Reads es qs) :
    ps = qs := by
  induction h generalizing qs with
  | nil =>
    cases h'
    rfl
  | kept h _ ih =>
    cases h' with
    | kept _ hrest => rw [ih hrest]
    | closed h' => exact absurd h' (h _)
    | unclosed h' => exact absurd h' (h _)
  | @closed e close language inside es ps h hinside hclose _ ih =>
    -- the other reading may end the block elsewhere, so its events are given a name
    generalize hwhole : inside ++ close :: es = whole at h'
    cases h' with
    | kept h' => exact absurd h (h' language)
    | closed h' hinside' hclose' hrest =>
      obtain rfl := h.unique h'
      obtain ⟨rfl, rfl⟩ := close_unique hinside hclose hinside' hclose' hwhole
      rw [ih hrest]
    | unclosed _ hopen => exact (not_closed_of_open hclose (hwhole ▸ hopen)).elim
  | @unclosed e language inside h hopen =>
    cases h' with
    | kept h' => exact absurd h (h' language)
    | closed _ _ hclose' _ => exact (not_closed_of_open hclose' hopen).elim
    | unclosed h' => rw [h.unique h']

/-! ## The pass -/

variable {highlight : (language code : Text) → Text}

/-- In a block, the pass collects its text. -/
theorem CodePass.run_inside {language : Text} {inside : List Event}
    (h : ∀ x ∈ inside, ¬ EndsBlock x) (code : Text) (es : List Event) :
    run highlight (.inside language code) (inside ++ es) =
      run highlight (.inside language (code ++ codeOf inside)) es := by
  induction inside generalizing code with
  | nil => rw [codeOf, List.append_nil, List.nil_append]
  | cons x inside ih =>
    obtain ⟨hx, hinside⟩ := List.forall_mem_cons.mp h
    rw [← endsCodeBlock_iff] at hx
    rw [List.cons_append, run, if_neg hx, ih hinside, codeOf_cons, List.append_assoc]

theorem CodePass.run_open {language : Text} {inside : List Event}
    (h : ∀ x ∈ inside, ¬ EndsBlock x) :
    run highlight (.inside language []) inside = [.html (highlight language (codeOf inside))] := by
  have hpass : run highlight (.inside language []) (inside ++ []) =
      run highlight (.inside language ([] ++ codeOf inside)) [] := run_inside h [] []
  rwa [List.append_nil, List.nil_append] at hpass

theorem CodePass.run_closed {language : Text} {inside : List Event} {close : Event}
    (h : ∀ x ∈ inside, ¬ EndsBlock x) (hclose : EndsBlock close) (es : List Event) :
    run highlight (.inside language []) (inside ++ close :: es) =
      .html (highlight language (codeOf inside)) :: run highlight .outside es := by
  rw [run_inside h, List.nil_append, run, if_pos (endsCodeBlock_iff.mpr hclose)]

/-- Replacing the code blocks makes one event of each piece. -/
theorem Reads.replaceCodeBlocks_eq {es : List Event} {ps : List Piece} (h : Reads es ps) :
    replaceCodeBlocks highlight es = ps.map (Piece.event highlight) := by
  unfold replaceCodeBlocks
  induction h with
  | nil => rfl
  | kept h _ ih =>
    rw [CodePass.run, namedLanguage?_eq_none_iff.mpr h, List.map_cons, ← ih]
    rfl
  | closed h hinside hclose _ ih =>
    rw [CodePass.run, namedLanguage?_eq_some_iff.mpr h, List.map_cons, ← ih]
    exact CodePass.run_closed hinside hclose _
  | unclosed h hinside =>
    rw [CodePass.run, namedLanguage?_eq_some_iff.mpr h]
    exact CodePass.run_open hinside

/-! ## Two loops with one counter -/

/-- The inner loop: from an event on, up to the end of the block that is open there. It answers with
the number of the event that it stops at, and the text of the block. -/
def readCode (events : List Event) (i : Nat) (code : Text) : Nat × Text :=
  match _h : events[i]? with
  | none => (i, code)
  | some (.finish (.codeBlock _)) => (i, code)
  | some (.text t) => readCode events (i + 1) (code ++ t)
  | some _ => readCode events (i + 1) code
termination_by events.length - i
decreasing_by
  all_goals
    have := (List.getElem?_eq_some_iff.mp _h).1
    omega

theorem le_readCode (events : List Event) (i : Nat) (code : Text) :
    i ≤ (readCode events i code).1 := by
  fun_induction readCode events i code with
  | case1 => exact Nat.le_refl _
  | case2 => exact Nat.le_refl _
  | case3 i code t _ ih => exact Nat.le_of_succ_le ih
  | case4 i code e _ _ _ ih => exact Nat.le_of_succ_le ih

/-- The outer loop: what was written, and what is written from an event on. It goes on behind the
event that the inner loop has stopped at. -/
def replaceFrom (highlight : (language code : Text) → Text) (events : List Event) (i : Nat)
    (written : List Event) : List Event :=
  match _h : events[i]? with
  | none => written
  | some (.start (.codeBlock (.fenced (c :: language)))) =>
    replaceFrom highlight events ((readCode events (i + 1) []).1 + 1)
      (written ++ [.html (highlight (c :: language) (readCode events (i + 1) []).2)])
  | some e => replaceFrom highlight events (i + 1) (written ++ [e])
termination_by events.length - i
decreasing_by
  · have := (List.getElem?_eq_some_iff.mp _h).1
    have := le_readCode events (i + 1) []
    omega
  · have := (List.getElem?_eq_some_iff.mp _h).1
    omega

section Loops

variable {events : List Event} {i : Nat}

theorem drop_eq_nil_of_getElem? (h : events[i]? = none) (k : Nat) : events.drop (i + k) = [] :=
  List.drop_eq_nil_of_le (Nat.le_add_right_of_le (List.getElem?_eq_none_iff.mp h))

theorem drop_eq_cons_of_getElem? {e : Event} (h : events[i]? = some e) :
    events.drop i = e :: events.drop (i + 1) := by
  obtain ⟨hlt, rfl⟩ := List.getElem?_eq_some_iff.mp h
  exact List.drop_eq_getElem_cons hlt

/-- The inner loop collects what the pass collects in a block, and stops where it leaves it. -/
theorem run_inside_eq (language : Text) (i : Nat) (code : Text) :
    CodePass.run highlight (.inside language code) (events.drop i) =
      .html (highlight language (readCode events i code).2) ::
        CodePass.run highlight .outside (events.drop ((readCode events i code).1 + 1)) := by
  fun_induction readCode events i code with
  | case1 i code hnone =>
    have hend := drop_eq_nil_of_getElem? hnone
    rw [hend 1, ← Nat.add_zero i, hend 0]
    rfl
  | case2 i code kind hsome =>
    rw [drop_eq_cons_of_getElem? hsome, CodePass.run, if_pos (endsCodeBlock_iff.mpr ⟨kind, rfl⟩)]
  | case3 i code t hsome ih =>
    rw [drop_eq_cons_of_getElem? hsome, ← ih]
    rfl
  | case4 i code e hclose htext hsome ih =>
    have hopen : ¬ endsCodeBlock e = true := by
      rw [endsCodeBlock_iff]
      exact fun ⟨kind, h⟩ => hclose kind h
    have hnone : codeText e = [] := by
      unfold codeText
      split
      · next t => exact absurd rfl (htext t)
      · rfl
    rw [drop_eq_cons_of_getElem? hsome, CodePass.run, if_neg hopen, hnone, List.append_nil, ih]

/-- From an event on, the loops write what the pass leaves of the events from there on. -/
theorem replaceFrom_eq (i : Nat) (written : List Event) :
    replaceFrom highlight events i written =
      written ++ replaceCodeBlocks highlight (events.drop i) := by
  unfold replaceCodeBlocks
  fun_induction replaceFrom highlight events i written with
  | case1 i written hnone =>
    have hend := drop_eq_nil_of_getElem? hnone 0
    rw [Nat.add_zero] at hend
    rw [hend, CodePass.run, List.append_nil]
  | case2 i written c language hsome ih =>
    have hlanguage : namedLanguage? (.start (.codeBlock (.fenced (c :: language)))) =
        some (c :: language) :=
      namedLanguage?_eq_some_iff.mpr ⟨rfl, List.cons_ne_nil _ _⟩
    rw [ih, drop_eq_cons_of_getElem? hsome, CodePass.run, hlanguage, List.append_assoc,
      List.singleton_append]
    exact congrArg (written ++ ·) (run_inside_eq (c :: language) (i + 1) []).symm
  | case3 i written e hother hsome ih =>
    have hlanguage : namedLanguage? e = none := by
      refine namedLanguage?_eq_none_iff.mpr ?_
      rintro (_ | ⟨c, language⟩) ⟨rfl, hne⟩
      · exact hne rfl
      · exact hother c language rfl
    rw [ih, drop_eq_cons_of_getElem? hsome, CodePass.run, hlanguage, List.append_assoc,
      List.singleton_append]

end Loops

/-! ## Replacing -/

/-- The events of a document are read as pieces in exactly one way, and replacing its code blocks
makes one event of each of them: a code block that names a language becomes the HTML of its text,
and all other events stay as they are. Two loops with one counter come to the same events. -/
theorem replaceCodeBlocks_reads (highlight : (language code : Text) → Text)
    (events : List Event) :
    (∃ pieces, Reads events pieces ∧ (∀ others, Reads events others → others = pieces) ∧
      replaceCodeBlocks highlight events = pieces.map (Piece.event highlight)) ∧
      replaceFrom highlight events 0 [] = replaceCodeBlocks highlight events := by
  obtain ⟨pieces, hreads⟩ := exists_reads events
  refine ⟨⟨pieces, hreads, fun others hothers => hothers.unique hreads,
    hreads.replaceCodeBlocks_eq⟩, ?_⟩
  rw [replaceFrom_eq, List.nil_append, List.drop_zero]

/-- A block that names no language is kept, and the block behind it is not closed. -/
example (highlight : (language code : Text) → Text) :
    let unnamed : Element := .codeBlock (.fenced [])
    replaceCodeBlocks highlight
        [.start unnamed, .text ['a'], .finish unnamed, .start (.codeBlock (.fenced ['c'])),
          .text ['b'], .softBreak, .text ['d']] =
      [.start unnamed, .text ['a'], .finish unnamed, .html (highlight ['c'] ['b', 'd'])] := rfl

end StaticSite.Markdown
