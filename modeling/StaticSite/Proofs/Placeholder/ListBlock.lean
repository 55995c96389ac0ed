import StaticSite.Proofs.Placeholder.Grammar
import StaticSite.Proofs.Placeholder.WellFormed
import StaticSite.Proofs.Text.Split

/-!
# List macros and the first list block

A list start and a list end hold no further sigils, so they are pieces of a text like any other
placeholder, and no list macro reaches into another one.

The first list start and the first list end of a text are looked for independently of each other.
`Found` lists what can come of it (`find_eq_iff`): no list start, no list end, a list end that comes
too early, or a block, which is cut out between the two (`CutAt`). A text that is put together from
a part without list macros, a list start, a part without list ends and a list end has its first
block right there (`find_append`).
-/

namespace StaticSite

open Placeholder

namespace Text

theorem all_isDigit_of_toNat? {t : Text} {n : Nat} (h : toNat? t = some n) :
    ∀ c ∈ t, c.isDigit = true := by
  unfold toNat? at h
  split at h
  · cases h
  · next hno =>
    intro c hc
    simp only [Bool.or_eq_true, not_or, Bool.not_eq_true, Bool.not_eq_false'] at hno
    exact List.all_eq_true.mp hno.2 c hc

end Text

/-! ## List macros -/

/-- The placeholder that ends a list block. -/
def listEnd : Placeholder where
  sigil := .post
  body := listEndWord

namespace Placeholder

/-- Whether the placeholder starts a list block. -/
def isListStart (p : Placeholder) : Bool :=
  p.listStart?.isSome

/-- The characters of list macros: ASCII letters, digits and colons. -/
def isMacroChar (c : Char) : Bool :=
  c.isAlpha || c.isDigit || c == ':'

/-- A body of such characters holds nothing that could end it or begin another placeholder. -/
theorem plain_of_macroChars {p : Placeholder} (h : p.body.all isMacroChar = true) : p.Plain where
  isBody := by
    intro c hc
    have hmacro := List.all_eq_true.mp h c hc
    constructor
    · rintro rfl
      revert hmacro
      decide
    · rintro rfl
      revert hmacro
      decide
  sigilFree := by
    intro c hc
    have hmacro := List.all_eq_true.mp h c hc
    cases hs : isSigil c with
    | false => rfl
    | true =>
      obtain ⟨s, rfl⟩ := exists_char_of_isSigil hs
      revert hmacro
      cases s <;> decide

theorem isListEnd_iff {p : Placeholder} : p.isListEnd = true ↔ p = listEnd := by
  obtain ⟨sigil, body⟩ := p
  simp [isListEnd, listEnd]

theorem listStart?_listEnd : listEnd.listStart? = none := by
  decide

theorem plain_listEnd : listEnd.Plain :=
  plain_of_macroChars (by decide)

/-- What a list start looks like. -/
theorem eq_of_listStart? {p : Placeholder} {s : ListStart} (h : p.listStart? = some s) :
    p.sigil = .post ∧ s.group ≠ [] ∧ (∀ c ∈ s.group, c.isAlpha = true) ∧ s.count < countLimit ∧
      ∃ digits, p.body = listWord ++ (s.group ++ ':' :: digits) ∧
        Text.toNat? digits = some s.count := by
  unfold listStart? at h
  split at h
  · next hsigil =>
    split at h
    · cases h
    · next rest hrest =>
      split at h
      · cases h
      · next group digits hsplit =>
        split at h
        · cases h
        · next hgroup =>
          split at h
          · cases h
          · next count hcount =>
            split at h
            · next hlt =>
              cases h
              simp only [Bool.or_eq_true, not_or, Bool.not_eq_true, Bool.not_eq_false'] at hgroup
              refine ⟨hsigil, by simpa using hgroup.1, List.all_eq_true.mp hgroup.2, hlt, digits,
                ?_, hcount⟩
              rw [Text.dropStart?_eq_some_iff.mp hrest, Text.eq_append_of_splitOnce? hsplit]
              simp
            · cases h
  · cases h

theorem plain_of_listStart? {p : Placeholder} {s : ListStart} (h : p.listStart? = some s) :
    p.Plain := by
  obtain ⟨-, -, hgroup, -, digits, hbody, hcount⟩ := eq_of_listStart? h
  have hdigits := Text.all_isDigit_of_toNat? hcount
  have hword : listWord.all isMacroChar = true := by decide
  apply plain_of_macroChars
  rw [hbody, List.all_append, List.all_append, List.all_cons, hword, Bool.true_and,
    Bool.and_eq_true, Bool.and_eq_true, List.all_eq_true, List.all_eq_true]
  refine ⟨fun c hc => ?_, by decide, fun c hc => ?_⟩
  · simp [isMacroChar, hgroup c hc]
  · simp [isMacroChar, hdigits c hc]

theorem plain_of_isSome_listStart? {p : Placeholder} (h : p.listStart?.isSome) : p.Plain := by
  obtain ⟨start, hstart⟩ := Option.isSome_iff_exists.mp h
  exact plain_of_listStart? hstart

theorem not_isListEnd_of_listStart? {p : Placeholder} {s : ListStart} (h : p.listStart? = some s) :
    p.isListEnd = false := by
  cases hend : p.isListEnd with
  | false => rfl
  | true =>
    rw [isListEnd_iff.mp hend, listStart?_listEnd] at h
    cases h

end Placeholder

/-! ## Texts without list macros -/

theorem mem_placeholders_of_mem_scanFrom {offset : Nat} {t : Text} {o : Occurrence}
    (h : o ∈ scanFrom offset t) : o.placeholder ∈ placeholders t := by
  rw [← map_placeholder_scanFrom offset]
  exact List.mem_map_of_mem h

/-- The text has no list start. -/
def StartFree (t : Text) : Prop :=
  ∀ p ∈ placeholders t, p.listStart? = none

/-- The text has no list end. -/
def EndFree (t : Text) : Prop :=
  ∀ p ∈ placeholders t, p.isListEnd = false

instance (t : Text) : Decidable (StartFree t) :=
  inferInstanceAs (Decidable (∀ p ∈ placeholders t, p.listStart? = none))

instance (t : Text) : Decidable (EndFree t) :=
  inferInstanceAs (Decidable (∀ p ∈ placeholders t, p.isListEnd = false))

theorem countStarts_eq_zero_iff {t : Text} : ListBlock.countStarts t = 0 ↔ StartFree t := by
  rw [countStarts_eq, List.countP_eq_zero]
  simp [StartFree]

/-! ## The first placeholder of a kind -/

/-- A placeholder of a text is the first one of its kind. -/
structure IsFirst (kind : Placeholder → Bool) (t : Text) (o : Occurrence) : Prop where
  /-- It is in the text. -/
  mem : o ∈ scan t
  /-- It is of the kind. -/
  holds : kind o.placeholder = true
  /-- No other one of the kind begins earlier. -/
  le_start : ∀ p ∈ scan t, kind p.placeholder = true → o.start ≤ p.start

theorem IsFirst.unique {kind : Placeholder → Bool} {t : Text} {o p : Occurrence}
    (ho : IsFirst kind t o) (hp : IsFirst kind t p) : o = p :=
  eq_of_start_eq ho.mem hp.mem
    (Nat.le_antisymm (ho.le_start p hp.mem hp.holds) (hp.le_start o ho.mem ho.holds))

theorem isFirst_of_split {kind : Placeholder → Bool} {t : Text} {o : Occurrence}
    {earlier later : List Occurrence} (hscan : scan t = earlier ++ o :: later)
    (ho : kind o.placeholder = true) (hearlier : ∀ p ∈ earlier, kind p.placeholder = false) :
    IsFirst kind t o := by
  have hordered := pairwise_start_scan t
  rw [hscan] at hordered
  refine ⟨by rw [hscan]; exact List.mem_append_right _ List.mem_cons_self, ho, fun p hp hkind => ?_⟩
  rw [hscan] at hp
  rcases List.mem_append.mp hp with hp | hp
  · rw [hearlier p hp] at hkind
    cases hkind
  · rcases List.mem_cons.mp hp with rfl | hp
    · exact Nat.le_refl _
    · exact Nat.le_of_lt ((List.pairwise_cons.mp (List.pairwise_append.mp hordered).2.1).1 p hp)

theorem find?_scan_eq_some_iff {kind : Placeholder → Bool} {t : Text} {o : Occurrence} :
    (scan t).find? (fun o => kind o.placeholder) = some o ↔ IsFirst kind t o := by
  have hfirst {o : Occurrence} (h : (scan t).find? (fun o => kind o.placeholder) = some o) :
      IsFirst kind t o := by
    obtain ⟨ho, earlier, later, hscan, hearlier⟩ := List.find?_eq_some_iff_append.mp h
    exact isFirst_of_split hscan ho fun p hp => Bool.not_eq_true' _ ▸ hearlier p hp
  constructor
  · exact hfirst
  · intro ho
    cases hfound : (scan t).find? fun o => kind o.placeholder with
    | none => exact absurd ho.holds (List.find?_eq_none.mp hfound o ho.mem)
    | some p => rw [ho.unique (hfirst hfound)]

/-- Before the first one of a kind there is none of the kind. -/
theorem IsFirst.eq_false_of_mem {kind : Placeholder → Bool} {a b c : Text} {o : Occurrence}
    (ho : IsFirst kind (a ++ (b ++ c)) o) (hle : Text.utf8Size (a ++ b) ≤ o.start)
    {p : Placeholder} (hp : p ∈ placeholders b) : kind p = false := by
  obtain ⟨hbody, x, y, rfl⟩ := mem_placeholders_iff.mp hp
  have hmem : ⟨p, Text.utf8Size (a ++ x)⟩ ∈ scan (a ++ (x ++ p.raw ++ y ++ c)) :=
    mem_scan_iff.mpr ⟨a ++ x, y ++ c, by simp only [List.append_assoc], hbody, rfl⟩
  cases hkind : kind p with
  | false => rfl
  | true =>
    have hfirst : o.start ≤ Text.utf8Size (a ++ x) := ho.le_start _ hmem hkind
    simp only [Text.utf8Size_append, p.utf8Size_raw] at hle hfirst
    omega

/-! ## The first block -/

namespace ListBlock

theorem firstStart?_eq_none_iff {t : Text} : firstStart? t = none ↔ StartFree t := by
  unfold firstStart?
  rw [List.findSome?_eq_none_iff]
  constructor
  · intro h p hp
    obtain ⟨o, ho, rfl⟩ := List.mem_map.mp hp
    simpa using h o ho
  · intro h o ho
    rw [h o.placeholder (List.mem_map_of_mem ho)]
    rfl

/-- The first list start that is found is the first one there is. -/
theorem firstStart?_eq_some_iff {t : Text} {o : Occurrence} {start : ListStart} :
    firstStart? t = some (o, start) ↔
      IsFirst isListStart t o ∧ o.placeholder.listStart? = some start := by
  rw [← find?_scan_eq_some_iff]
  unfold firstStart? isListStart
  induction scan t with
  | nil => simp
  | cons p os ih =>
    rw [List.findSome?_cons, List.find?_cons]
    cases hp : p.placeholder.listStart? with
    | none => simpa using ih
    | some s =>
      simp only [Option.map_some, Option.some.injEq, Prod.mk.injEq, Option.isSome_some]
      constructor
      · rintro ⟨rfl, rfl⟩
        exact ⟨rfl, hp⟩
      · rintro ⟨rfl, hstart⟩
        rw [hp] at hstart
        exact ⟨rfl, Option.some.inj hstart⟩

theorem firstEnd?_eq_none_iff {t : Text} : firstEnd? t = none ↔ EndFree t := by
  unfold firstEnd?
  rw [List.find?_eq_none]
  constructor
  · intro h p hp
    obtain ⟨o, ho, rfl⟩ := List.mem_map.mp hp
    simpa using h o ho
  · intro h o ho
    rw [h o.placeholder (List.mem_map_of_mem ho)]
    exact Bool.false_ne_true

theorem firstEnd?_eq_some_iff {t : Text} {o : Occurrence} :
    firstEnd? t = some o ↔ IsFirst isListEnd t o :=
  find?_scan_eq_some_iff

/-- A text is cut at two placeholders of which one stands behind the other. -/
theorem exists_cut {t : Text} {opening closing : Occurrence} (hopening : opening ∈ scan t)
    (hclosing : closing ∈ scan t) (hbehind : opening.stop ≤ closing.start) :
    ∃ before body after,
      t = before ++ (opening.placeholder.raw ++ (body ++ (closing.placeholder.raw ++ after))) ∧
      opening.start = Text.utf8Size before ∧
      closing.start = Text.utf8Size (before ++ opening.placeholder.raw ++ body) := by
  obtain ⟨before, rest, hopen, -, hat⟩ := mem_scan_iff.mp hopening
  obtain ⟨upTo, after, hlast, -, hat'⟩ := mem_scan_iff.mp hclosing
  have hstop : opening.stop = Text.utf8Size (before ++ opening.placeholder.raw) := by
    rw [Occurrence.stop, hat, Text.utf8Size_append]
  have hsame : before ++ opening.placeholder.raw ++ rest =
      upTo ++ (closing.placeholder.raw ++ after) := by
    rw [List.append_assoc, ← hopen, hlast]
  have hle : Text.utf8Size (before ++ opening.placeholder.raw) ≤ Text.utf8Size upTo := by
    rw [← hstop, ← hat']
    exact hbehind
  obtain ⟨body, rfl, -⟩ := Text.exists_append_of_utf8Size_le hsame hle
  refine ⟨before, body, after, ?_, hat, hat'⟩
  rw [hlast]
  simp only [List.append_assoc]

/-- A block is cut out of a text behind its first list start and before its first list end. -/
structure CutAt (t : Text) (opening closing : Occurrence) (block : ListBlock) : Prop where
  /-- The block begins with the first list start. -/
  opening_first : IsFirst isListStart t opening
  /-- It has the group and the count of that. -/
  listStart?_opening : opening.placeholder.listStart? = some block.start
  /-- It ends with the first list end. -/
  closing_first : IsFirst isListEnd t closing
  /-- The list end does not begin before the list start ends. -/
  stop_le_start : opening.stop ≤ closing.start
  /-- What stands before the block ends where the list start begins. -/
  start_opening : opening.start = Text.utf8Size block.before
  /-- The body reaches from the one to the other. -/
  start_closing : closing.start = opening.stop + Text.utf8Size block.body
  /-- The text is these parts, one behind the other. -/
  eq_append : t = block.before ++ (opening.placeholder.raw ++
    (block.body ++ (listEnd.raw ++ block.after)))

namespace CutAt

variable {t : Text} {opening closing : Occurrence} {block : ListBlock}

theorem startFree_before (h : CutAt t opening closing block) : StartFree block.before := by
  have hfirst := h.opening_first
  rw [h.eq_append, ← List.nil_append (block.before ++ _)] at hfirst
  intro p hp
  have hkind := hfirst.eq_false_of_mem (Nat.le_of_eq h.start_opening.symm) hp
  exact Option.isNone_iff_eq_none.mp (Option.isSome_eq_false_iff.mp hkind)

theorem endFree_before (h : CutAt t opening closing block) : EndFree block.before := by
  have hfirst := h.closing_first
  rw [h.eq_append, ← List.nil_append (block.before ++ _)] at hfirst
  have hle : Text.utf8Size ([] ++ block.before) ≤ closing.start := by
    have hstart := h.start_opening
    have hstop := h.stop_le_start
    rw [Occurrence.stop] at hstop
    rw [List.nil_append]
    omega
  exact fun p hp => hfirst.eq_false_of_mem hle hp

theorem endFree_body (h : CutAt t opening closing block) : EndFree block.body := by
  have hfirst := h.closing_first
  rw [h.eq_append, ← List.append_assoc] at hfirst
  have hle : Text.utf8Size (block.before ++ opening.placeholder.raw ++ block.body) ≤
      closing.start := by
    have hstart := h.start_opening
    have hbetween := h.start_closing
    rw [Occurrence.stop] at hbetween
    simp only [Text.utf8Size_append]
    omega
  exact fun p hp => hfirst.eq_false_of_mem hle hp

end CutAt

/-- A block is cut out wherever the first list end comes behind the first list start. -/
theorem exists_cutAt {t : Text} {opening closing : Occurrence} {start : ListStart}
    (hopening : IsFirst isListStart t opening)
    (hstart : opening.placeholder.listStart? = some start) (hclosing : IsFirst isListEnd t closing)
    (hle : opening.stop ≤ closing.start) :
    ∃ block, CutAt t opening closing block := by
  obtain ⟨before, body, after, ht, hat, hat'⟩ := exists_cut hopening.mem hclosing.mem hle
  rw [isListEnd_iff.mp hclosing.holds] at ht
  have hbetween : closing.start = opening.stop + Text.utf8Size body := by
    rw [hat', Text.utf8Size_append, Text.utf8Size_append, Occurrence.stop, hat]
  exact ⟨⟨before, start, body, after⟩, hopening, hstart, hclosing, hle, hat, hbetween, ht⟩

/-! ## What looking for a block comes to -/

section Find

variable {t : Text} {opening closing : Occurrence} {start : ListStart} {block : ListBlock}

theorem find_of_startFree (h : StartFree t) : find t = .ok none := by
  unfold find
  rw [firstStart?_eq_none_iff.mpr h]

theorem find_of_endFree (hstart : firstStart? t = some (opening, start)) (h : EndFree t) :
    find t = .error (.missingListEnd start.group) := by
  unfold find
  rw [hstart, firstEnd?_eq_none_iff.mpr h]

theorem find_of_lt (hstart : firstStart? t = some (opening, start))
    (hend : firstEnd? t = some closing) (hlt : closing.start < opening.stop) :
    find t = .error (.listEndBeforeStart start.group) := by
  unfold find
  rw [hstart, hend]
  exact if_pos hlt

theorem CutAt.find_eq (h : CutAt t opening closing block) : find t = .ok (some block) := by
  obtain ⟨before, start, body, after⟩ := block
  obtain ⟨hopening, hlist, hclosing, hle, hat, hbetween, ht⟩ := h
  have hstart := firstStart?_eq_some_iff.mpr ⟨hopening, hlist⟩
  have hend := firstEnd?_eq_some_iff.mpr hclosing
  have hopen : opening.stop = Text.utf8Size (before ++ opening.placeholder.raw) := by
    rw [Occurrence.stop, hat, Text.utf8Size_append]
  have hlast : closing.stop =
      Text.utf8Size (before ++ opening.placeholder.raw ++ body ++ listEnd.raw) := by
    rw [Occurrence.stop, isListEnd_iff.mp hclosing.holds, hbetween, hopen,
      Text.utf8Size_append _ listEnd.raw, Text.utf8Size_append _ body]
  have hcutBefore : Text.takeBytes opening.start t = before := by
    rw [hat, ht, Text.takeBytes_append]
  have hcutOpen : Text.dropBytes opening.stop t = body ++ (listEnd.raw ++ after) := by
    rw [hopen, ht, ← List.append_assoc, Text.dropBytes_append]
  have hcutBody : Text.takeBytes (closing.start - opening.stop) (Text.dropBytes opening.stop t) =
      body := by
    rw [hbetween, Nat.add_sub_cancel_left, hcutOpen, Text.takeBytes_append]
  have hcutAfter : Text.dropBytes closing.stop t = after := by
    rw [hlast, ht, ← List.append_assoc, ← List.append_assoc, ← List.append_assoc,
      Text.dropBytes_append]
  unfold find
  simp only [hstart, hend, if_neg (Nat.not_lt_of_le hle), hcutBefore, hcutBody, hcutAfter]

/-- What there is to be found when the first list block of a text is looked for. -/
inductive Found (t : Text) : Except BuildError (Option ListBlock) → Prop
  /-- There is no list start. -/
  | nothing (h : StartFree t) : Found t (.ok none)
  /-- There is a list start, but no list end at all. -/
  | missingListEnd {opening : Occurrence} {start : ListStart}
      (hopening : IsFirst isListStart t opening)
      (hstart : opening.placeholder.listStart? = some start) (hends : EndFree t) :
      Found t (.error (.missingListEnd start.group))
  /-- There is a list end that begins before the first list start ends. -/
  | listEndBeforeStart {opening closing : Occurrence} {start : ListStart}
      (hopening : IsFirst isListStart t opening)
      (hstart : opening.placeholder.listStart? = some start) (hclosing : closing ∈ scan t)
      (hend : closing.placeholder = listEnd) (hlt : closing.start < opening.stop) :
      Found t (.error (.listEndBeforeStart start.group))
  /-- There is a block. -/
  | block {opening closing : Occurrence} {block : ListBlock} (h : CutAt t opening closing block) :
      Found t (.ok (some block))

theorem found_find (t : Text) : Found t (find t) := by
  cases hstart : firstStart? t with
  | none =>
    have hstarts := firstStart?_eq_none_iff.mp hstart
    rw [find_of_startFree hstarts]
    exact .nothing hstarts
  | some found =>
    obtain ⟨opening, start⟩ := found
    obtain ⟨hopening, hlist⟩ := firstStart?_eq_some_iff.mp hstart
    cases hend : firstEnd? t with
    | none =>
      have hends := firstEnd?_eq_none_iff.mp hend
      rw [find_of_endFree hstart hends]
      exact .missingListEnd hopening hlist hends
    | some closing =>
      have hclosing := firstEnd?_eq_some_iff.mp hend
      rcases Nat.lt_or_ge closing.start opening.stop with hlt | hle
      · rw [find_of_lt hstart hend hlt]
        exact .listEndBeforeStart hopening hlist hclosing.mem (isListEnd_iff.mp hclosing.holds) hlt
      · obtain ⟨block, hcut⟩ := exists_cutAt hopening hlist hclosing hle
        rw [hcut.find_eq]
        exact .block hcut

theorem find_eq_iff {result : Except BuildError (Option ListBlock)} :
    find t = result ↔ Found t result := by
  constructor
  · rintro rfl
    exact found_find t
  · intro h
    cases h with
    | nothing h => exact find_of_startFree h
    | missingListEnd hopening hlist hends =>
      exact find_of_endFree (firstStart?_eq_some_iff.mpr ⟨hopening, hlist⟩) hends
    | listEndBeforeStart hopening hlist hclosing hend hlt =>
      have hstart := firstStart?_eq_some_iff.mpr ⟨hopening, hlist⟩
      have hkind := isListEnd_iff.mpr hend
      cases hearliest : firstEnd? t with
      | none =>
        have hno := firstEnd?_eq_none_iff.mp hearliest _ (List.mem_map_of_mem hclosing)
        rw [hkind] at hno
        cases hno
      | some earliest =>
        -- the first list end begins no later than one that comes too early
        have hle := (firstEnd?_eq_some_iff.mp hearliest).le_start _ hclosing hkind
        exact find_of_lt hstart hearliest (Nat.lt_of_le_of_lt hle hlt)
    | block h => exact h.find_eq

theorem startFree_of_find (h : find t = .ok none) : StartFree t := by
  cases find_eq_iff.mp h with
  | nothing h => exact h

theorem exists_cutAt_of_find (h : find t = .ok (some block)) :
    ∃ opening closing, CutAt t opening closing block := by
  cases find_eq_iff.mp h with
  | block h => exact ⟨_, _, h⟩

/-- The first block of a text with its two macros. -/
theorem exists_of_find (h : find t = .ok (some block)) :
    ∃ opening : Placeholder, opening.listStart? = some block.start ∧
      t = block.before ++ (opening.raw ++ (block.body ++ (listEnd.raw ++ block.after))) := by
  obtain ⟨opening, closing, hcut⟩ := exists_cutAt_of_find h
  exact ⟨opening.placeholder, hcut.listStart?_opening, hcut.eq_append⟩

/-- Looking for a block fails only for want of a list end that comes late enough. -/
theorem eq_of_find_error {e : BuildError} (h : find t = .error e) :
    ∃ group, e = .missingListEnd group ∨ e = .listEndBeforeStart group := by
  cases find_eq_iff.mp h with
  | missingListEnd => exact ⟨_, .inl rfl⟩
  | listEndBeforeStart => exact ⟨_, .inr rfl⟩

end Find

/-! ## Texts that are put together around a block -/

section Append

variable {before body : Text} {p : Placeholder} {s : ListStart}

/-- What a text that is put together around a block has of the placeholders without inner sigils:
what its parts have. The two list macros begin with a sigil, so none reaches into them. -/
theorem filterMap_scan_append {α : Type} {f : Occurrence → Option α}
    (hf : ∀ o, (f o).isSome → o.placeholder.Plain) (hp : p.Plain) (before body after : Text) :
    (scan (before ++ (p.raw ++ (body ++ (listEnd.raw ++ after))))).filterMap f =
      (scan before).filterMap f ++ ((f ⟨p, Text.utf8Size before⟩).toList ++
        ((scanFrom (Text.utf8Size (before ++ p.raw)) body).filterMap f ++
          ((f ⟨listEnd, Text.utf8Size (before ++ p.raw ++ body)⟩).toList ++
            (scanFrom (Text.utf8Size (before ++ p.raw ++ body ++ listEnd.raw)) after).filterMap
              f))) := by
  have hcons (o : Occurrence) (os : List Occurrence) :
      (o :: os).filterMap f = (f o).toList ++ os.filterMap f := by
    rw [List.filterMap_cons]
    cases f o <;> rfl
  rw [scan_eq, scan_eq, filterMap_scanFrom_append_raw hf, scanFrom_raw_append hp, hcons,
    filterMap_scanFrom_append_raw hf, scanFrom_raw_append plain_listEnd, hcons]
  simp only [Text.utf8Size_append, Nat.zero_add]

theorem firstStart?_append (hp : p.listStart? = some s) (hstarts : StartFree before)
    (body after : Text) :
    firstStart? (before ++ (p.raw ++ (body ++ (listEnd.raw ++ after)))) =
      some (⟨p, Text.utf8Size before⟩, s) := by
  have hnone := firstStart?_eq_none_iff.mpr hstarts
  unfold firstStart? at hnone ⊢
  rw [← List.head?_filterMap] at hnone ⊢
  rw [filterMap_scan_append ?_ (plain_of_listStart? hp), List.head?_eq_none_iff.mp hnone, hp]
  · rfl
  · intro o ho
    rw [Option.isSome_map] at ho
    exact plain_of_isSome_listStart? ho

theorem filterMap_isListEnd_scanFrom {offset : Nat} {t : Text} (h : EndFree t) :
    (scanFrom offset t).filterMap (Option.guard fun o => o.placeholder.isListEnd) = [] := by
  refine List.filterMap_eq_nil_iff.mpr fun o ho => ?_
  rw [Option.guard, h o.placeholder (mem_placeholders_of_mem_scanFrom ho)]
  rfl

theorem firstEnd?_append (hp : p.listStart? = some s) (hends : EndFree before)
    (hbodyEnds : EndFree body) (after : Text) :
    firstEnd? (before ++ (p.raw ++ (body ++ (listEnd.raw ++ after)))) =
      some ⟨listEnd, Text.utf8Size (before ++ p.raw ++ body)⟩ := by
  have hself : listEnd.isListEnd = true := isListEnd_iff.mpr rfl
  unfold firstEnd?
  rw [List.find?_eq_findSome?_guard, ← List.head?_filterMap,
    filterMap_scan_append ?_ (plain_of_listStart? hp), scan_eq, filterMap_isListEnd_scanFrom hends,
    filterMap_isListEnd_scanFrom hbodyEnds, Option.guard, not_isListEnd_of_listStart? hp,
    Option.guard, hself]
  · rfl
  · intro o ho
    rw [Option.isSome_guard] at ho
    rw [isListEnd_iff.mp ho]
    exact plain_listEnd

/-- The first block of a text that is put together around it. -/
theorem find_append (hp : p.listStart? = some s) (hstarts : StartFree before)
    (hends : EndFree before) (hbodyEnds : EndFree body) (after : Text) :
    find (before ++ (p.raw ++ (body ++ (listEnd.raw ++ after)))) =
      .ok (some ⟨before, s, body, after⟩) := by
  have hopening := (firstStart?_eq_some_iff.mp (firstStart?_append hp hstarts body after)).1
  have hclosing := firstEnd?_eq_some_iff.mp (firstEnd?_append hp hends hbodyEnds after)
  have hbetween : Text.utf8Size (before ++ p.raw ++ body) =
      (⟨p, Text.utf8Size before⟩ : Occurrence).stop + Text.utf8Size body := by
    rw [Occurrence.stop_utf8Size, Text.utf8Size_append]
  have hle : (⟨p, Text.utf8Size before⟩ : Occurrence).stop ≤
      Text.utf8Size (before ++ p.raw ++ body) := by
    rw [hbetween]
    exact Nat.le_add_right _ _
  exact CutAt.find_eq ⟨hopening, hp, hclosing, hle, rfl, hbetween, rfl⟩

end Append

end ListBlock

end StaticSite
