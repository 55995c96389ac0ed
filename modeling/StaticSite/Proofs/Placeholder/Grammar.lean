import StaticSite.Proofs.Placeholder.Scan
import StaticSite.Proofs.Text.Bytes

/-!
# The grammar of placeholders

What a placeholder is can be said without a scanner, in bytes (`PlaceholderBytes`): a sigil, an
opening brace, and no line break before the next closing brace. A scanner yields exactly these, each
one once and in the order of their beginnings (`scan_exact`).

The link is that a scan finds a placeholder wherever the text can be split before one
(`mem_scanFrom_iff`). For a text as a whole the question is whether it holds a placeholder, and
which one comes first (`firstPlaceholder?_eq_none_iff`, `isFirst_of_firstPlaceholder?`).
-/

namespace StaticSite

/-! ## Where placeholders are found -/

/-- A placeholder is found exactly where the text can be split before its written form. -/
theorem mem_scanFrom_iff {offset : Nat} {t : Text} {o : Occurrence} :
    o ∈ scanFrom offset t ↔
      ∃ before rest, t = before ++ (o.placeholder.raw ++ rest) ∧ IsBody o.placeholder.body ∧
        o.start = offset + Text.utf8Size before := by
  induction t generalizing offset with
  | nil => simp [scanFrom, Placeholder.raw]
  | cons c t ih =>
    -- a split further on is a split of the tail
    have htail : o ∈ scanFrom (offset + c.utf8Size) t ↔
        ∃ before rest, t = before ++ (o.placeholder.raw ++ rest) ∧ IsBody o.placeholder.body ∧
          o.start = offset + Text.utf8Size (c :: before) := by
      rw [ih]
      simp only [Text.utf8Size_cons, Nat.add_assoc]
    have hsplit : (∃ before rest, c :: t = before ++ (o.placeholder.raw ++ rest) ∧
          IsBody o.placeholder.body ∧ o.start = offset + Text.utf8Size before) ↔
        (∃ rest, Placeholder.atStart? (c :: t) = some (o.placeholder, rest) ∧ o.start = offset) ∨
          o ∈ scanFrom (offset + c.utf8Size) t := by
      rw [htail]
      constructor
      · rintro ⟨before, rest, heq, hbody, hstart⟩
        cases before with
        | nil => exact .inl ⟨rest, Placeholder.atStart?_eq_some_iff.mpr ⟨hbody, heq⟩, hstart⟩
        | cons b before =>
          obtain ⟨rfl, ht⟩ := List.cons.inj heq
          exact .inr ⟨before, rest, ht, hbody, hstart⟩
      · rintro (⟨rest, hp, hstart⟩ | ⟨before, rest, rfl, hbody, hstart⟩)
        · obtain ⟨hbody, heq⟩ := Placeholder.atStart?_eq_some_iff.mp hp
          exact ⟨[], rest, heq, hbody, hstart⟩
        · exact ⟨c :: before, rest, rfl, hbody, hstart⟩
    rw [hsplit]
    cases hp : Placeholder.atStart? (c :: t) with
    | none => simp [scanFrom_cons_none hp]
    | some found =>
      obtain ⟨p, rest⟩ := found
      obtain ⟨q, start⟩ := o
      rw [scanFrom_cons_some hp, List.mem_cons]
      simp [eq_comm]

theorem mem_scan_iff {t : Text} {o : Occurrence} :
    o ∈ scan t ↔
      ∃ before rest, t = before ++ (o.placeholder.raw ++ rest) ∧ IsBody o.placeholder.body ∧
        o.start = Text.utf8Size before := by
  rw [scan_eq, mem_scanFrom_iff]
  simp only [Nat.zero_add]

/-- The placeholders of a text are those whose written form is a part of it. -/
theorem mem_placeholders_iff {t : Text} {p : Placeholder} :
    p ∈ placeholders t ↔ IsBody p.body ∧ p.raw <:+: t := by
  constructor
  · intro h
    obtain ⟨o, ho, rfl⟩ := List.mem_map.mp h
    obtain ⟨before, rest, rfl, hbody, -⟩ := mem_scan_iff.mp ho
    exact ⟨hbody, before, rest, List.append_assoc _ _ _⟩
  · rintro ⟨hbody, before, rest, rfl⟩
    exact List.mem_map.mpr ⟨⟨p, _⟩,
      mem_scan_iff.mpr ⟨before, rest, List.append_assoc _ _ _, hbody, rfl⟩, rfl⟩

/-- Placeholders are found in the order of their beginnings, no two at one place. -/
theorem pairwise_start_scanFrom (offset : Nat) (t : Text) :
    (scanFrom offset t).Pairwise fun o p => o.start < p.start := by
  induction t generalizing offset with
  | nil => exact .nil
  | cons c t ih =>
    have hc := c.utf8Size_pos
    cases hp : Placeholder.atStart? (c :: t) with
    | none =>
      rw [scanFrom_cons_none hp]
      exact ih _
    | some found =>
      rw [scanFrom_cons_some hp]
      refine .cons (fun o ho => ?_) (ih _)
      have hle := le_start_of_mem_scanFrom ho
      show offset < o.start
      omega

theorem pairwise_start_scan (t : Text) : (scan t).Pairwise fun o p => o.start < p.start := by
  rw [scan_eq]
  exact pairwise_start_scanFrom 0 t

theorem eq_of_start_eq {t : Text} {o p : Occurrence} (ho : o ∈ scan t) (hp : p ∈ scan t)
    (h : o.start = p.start) : o = p := by
  have hordered := pairwise_start_scan t
  obtain ⟨earlier, later, hscan⟩ := List.append_of_mem ho
  rw [hscan] at hordered hp
  obtain ⟨-, hlater, hearlier⟩ := List.pairwise_append.mp hordered
  rcases List.mem_append.mp hp with hp | hp
  · exact absurd h.symm (Nat.ne_of_lt (hearlier p hp o List.mem_cons_self))
  · rcases List.mem_cons.mp hp with rfl | hp
    · rfl
    · exact absurd h (Nat.ne_of_lt ((List.pairwise_cons.mp hlater).1 p hp))

/-! ## The iteration -/

/-- Asked again and again for the next placeholder, the scanner answers with these and then comes to
an end. -/
inductive Scanner.Yields : Scanner → List Occurrence → Prop
  /-- No placeholder is left. -/
  | done {s : Scanner} (h : s.next? = none) : Yields s []
  /-- There is a next one. -/
  | next {s s' : Scanner} {o : Occurrence} {os : List Occurrence} (h : s.next? = some (o, s'))
      (hrest : Yields s' os) : Yields s (o :: os)

/-- A scanner has come to its end when as many placeholders are found as the text has characters. -/
theorem Scanner.yields_collect {s : Scanner} {limit : Text} (h : s.rest.length ≤ limit.length) :
    s.Yields (s.collect limit) := by
  induction limit generalizing s with
  | nil =>
    refine .done ?_
    rw [List.length_nil, Nat.le_zero, List.length_eq_zero_iff] at h
    rw [next?, h]
    rfl
  | cons c limit ih =>
    rw [collect]
    cases hnext : s.next? with
    | none => exact .done hnext
    | some found =>
      obtain ⟨o, s'⟩ := found
      have hlt := length_rest_lt hnext
      rw [List.length_cons] at h
      exact .next hnext (ih (by omega))

/-! ## The grammar in bytes -/

/-- A placeholder begins at byte `start` and its closing brace is byte `close`. -/
structure PlaceholderBytes (t : Text) (start close : Nat) : Prop where
  /-- It begins with a sigil. -/
  sigil : t.byteAt? start = some '$'.toUInt8 ∨ t.byteAt? start = some '@'.toUInt8 ∨
    t.byteAt? start = some '#'.toUInt8
  /-- An opening brace follows. -/
  brace : t.byteAt? (start + 1) = some '{'.toUInt8
  /-- The closing brace comes behind it. -/
  le_close : start + 2 ≤ close
  /-- It ends with a closing brace. -/
  closing : t.byteAt? close = some '}'.toUInt8
  /-- No closing brace and no line break comes earlier. -/
  inside : ∀ i, start + 2 ≤ i → i < close →
    t.byteAt? i ≠ some '}'.toUInt8 ∧ t.byteAt? i ≠ some '\n'.toUInt8

namespace Sigil

theorem utf8Size_char (s : Sigil) : s.char.utf8Size = 1 :=
  utf8Size_of_ofChar? (ofChar?_eq_some_iff.mpr rfl)

theorem exists_byteAt?_iff {t : Text} {i : Nat} :
    (∃ s : Sigil, t.byteAt? i = some s.char.toUInt8) ↔
      t.byteAt? i = some '$'.toUInt8 ∨ t.byteAt? i = some '@'.toUInt8 ∨
        t.byteAt? i = some '#'.toUInt8 := by
  constructor
  · rintro ⟨s, h⟩
    cases s with
    | template => exact .inl h
    | value => exact .inr (.inl h)
    | post => exact .inr (.inr h)
  · rintro (h | h | h)
    · exact ⟨.template, h⟩
    · exact ⟨.value, h⟩
    · exact ⟨.post, h⟩

end Sigil

/-- A text without the character has no byte that reads as it. -/
theorem Text.byteAt?_ne_of_not_mem {d : Char} (hd : d.utf8Size = 1) {t : Text} (h : d ∉ t)
    (i : Nat) : t.byteAt? i ≠ some d.toUInt8 := by
  intro hbyte
  obtain ⟨before, after, rfl, -⟩ := (byteAt?_eq_some_iff hd).mp hbyte
  exact h (List.mem_append_right _ List.mem_cons_self)

section Bytes

variable {before body rest : Text} {s : Sigil}

/-- A sigil and its opening brace are two bytes, and the body begins behind them. -/
theorem byteAt?_opening (before inner : Text) (s : Sigil) (i : Nat) :
    Text.byteAt? (before ++ s.char :: '{' :: inner) (Text.utf8Size before + 2 + i) =
      Text.byteAt? inner i := by
  have hbrace : '{'.utf8Size = 1 := rfl
  calc
    _ = Text.byteAt? (before ++ s.char :: '{' :: inner) (Text.utf8Size before + 1 + (1 + i)) := by
      congr 1
      omega
    _ = Text.byteAt? ('{' :: inner) (1 + i) :=
      Text.byteAt?_append_cons s.utf8Size_char before ('{' :: inner) (1 + i)
    _ = Text.byteAt? inner i := by
      have hinner := Text.byteAt?_append_cons hbrace [] inner i
      rwa [Text.utf8Size_nil, Nat.zero_add, List.nil_append] at hinner

/-- What the bytes of a text are where it is split before a placeholder. -/
theorem placeholderBytes_of_split (hbody : IsBody body) (rest : Text) :
    PlaceholderBytes (before ++ ((⟨s, body⟩ : Placeholder).raw ++ rest)) (Text.utf8Size before)
      (Text.utf8Size before + 2 + Text.utf8Size body) where
  sigil := Sigil.exists_byteAt?_iff.mp
    ⟨s, (Text.byteAt?_eq_some_iff s.utf8Size_char).mpr ⟨before, _, rfl, rfl⟩⟩
  brace := (Text.byteAt?_eq_some_iff rfl).mpr
    ⟨before ++ [s.char], body ++ '}' :: rest, by simp [Placeholder.raw],
      by simp [s.utf8Size_char]⟩
  le_close := Nat.le_add_right _ _
  closing := (Text.byteAt?_eq_some_iff rfl).mpr
    ⟨before ++ s.char :: '{' :: body, rest, by simp [Placeholder.raw], by
      have hbrace : '{'.utf8Size = 1 := rfl
      simp only [Text.utf8Size_append, Text.utf8Size_cons, s.utf8Size_char]
      omega⟩
  inside := by
    intro i hi hlt
    obtain ⟨k, rfl⟩ := Nat.exists_eq_add_of_le hi
    have hk : k < Text.utf8Size body := Nat.lt_of_add_lt_add_left hlt
    rw [Placeholder.raw_append, byteAt?_opening, Text.byteAt?_append_left hk]
    exact ⟨Text.byteAt?_ne_of_not_mem rfl (fun h => (hbody _ h).1 rfl) k,
      Text.byteAt?_ne_of_not_mem rfl (fun h => (hbody _ h).2 rfl) k⟩

/-- Where its bytes read as a placeholder, a text can be split before one. -/
theorem PlaceholderBytes.exists_split {t : Text} {start close : Nat}
    (h : PlaceholderBytes t start close) :
    ∃ before, ∃ p : Placeholder, ∃ rest, t = before ++ (p.raw ++ rest) ∧ IsBody p.body ∧
      start = Text.utf8Size before ∧ close = Text.utf8Size before + 2 + Text.utf8Size p.body := by
  obtain ⟨s, hs⟩ := Sigil.exists_byteAt?_iff.mpr h.sigil
  obtain ⟨before, behind, rfl, rfl⟩ := (Text.byteAt?_eq_some_iff s.utf8Size_char).mp hs
  have hbrace := h.brace
  rw [← Nat.add_zero (_ + 1), Text.byteAt?_append_cons s.utf8Size_char] at hbrace
  obtain ⟨gap, inner, rfl, hgap⟩ := (Text.byteAt?_eq_some_iff rfl).mp hbrace
  obtain rfl := Text.eq_nil_of_utf8Size_eq_zero hgap
  rw [List.nil_append] at h ⊢
  obtain ⟨size, rfl⟩ := Nat.exists_eq_add_of_le h.le_close
  have hclosing := h.closing
  rw [byteAt?_opening] at hclosing
  obtain ⟨body, rest, rfl, rfl⟩ := (Text.byteAt?_eq_some_iff rfl).mp hclosing
  refine ⟨before, ⟨s, body⟩, rest, by simp [Placeholder.raw], fun d hd => ?_, rfl, rfl⟩
  -- a closing brace or a line break in the body would be a byte inside
  obtain ⟨inside, behind, rfl⟩ := List.append_of_mem hd
  have hlt : Text.utf8Size inside < Text.utf8Size (inside ++ d :: behind) := by
    have hpos := Text.utf8Size_cons_pos d behind
    rw [Text.utf8Size_append]
    omega
  have hinside := h.inside (Text.utf8Size before + 2 + Text.utf8Size inside) (by omega) (by omega)
  rw [byteAt?_opening, List.append_assoc] at hinside
  constructor
  · rintro rfl
    exact hinside.1 ((Text.byteAt?_eq_some_iff rfl).mpr ⟨inside, _, rfl, rfl⟩)
  · rintro rfl
    exact hinside.2 ((Text.byteAt?_eq_some_iff rfl).mpr ⟨inside, _, rfl, rfl⟩)

end Bytes

theorem Placeholder.utf8Size_raw (p : Placeholder) :
    Text.utf8Size p.raw = 2 + Text.utf8Size p.body + 1 := by
  have hopening : '{'.utf8Size = 1 := rfl
  have hclosing : '}'.utf8Size = 1 := rfl
  simp only [raw, List.cons_append, Text.utf8Size_cons, Text.utf8Size_append, Text.utf8Size_nil,
    p.sigil.utf8Size_char]
  omega

/-- An occurrence is cut out of a text where it says: its bytes are those of a placeholder, and all
its cuts are between characters. -/
structure Occurrence.CutFrom (t : Text) (o : Occurrence) : Prop where
  /-- Its bytes read as a placeholder. -/
  bytes : PlaceholderBytes t o.start (o.stop - 1)
  /-- Its family is that of the sigil. -/
  sigil : t.byteAt? o.start = some o.placeholder.sigil.char.toUInt8
  /-- Its written form is all of it. -/
  raw : (Text.encode t).extract o.start o.stop = Text.encode o.placeholder.raw
  /-- Its body is what stands between the braces. -/
  body : (Text.encode t).extract (o.start + 2) (o.stop - 1) = Text.encode o.placeholder.body
  /-- It begins between two characters. -/
  start_boundary : t.IsBoundary o.start
  /-- Its body begins between two characters. -/
  body_boundary : t.IsBoundary (o.start + 2)
  /-- Its body ends between two characters. -/
  close_boundary : t.IsBoundary (o.stop - 1)
  /-- It ends between two characters. -/
  stop_boundary : t.IsBoundary o.stop

theorem cutFrom_of_mem_scan {t : Text} {o : Occurrence} (h : o ∈ scan t) : o.CutFrom t := by
  obtain ⟨before, rest, rfl, hbody, hstart⟩ := mem_scan_iff.mp h
  obtain ⟨⟨sigil, body⟩, start⟩ := o
  obtain rfl : start = Text.utf8Size before := hstart
  have hstop : (⟨⟨sigil, body⟩, Text.utf8Size before⟩ : Occurrence).stop =
      Text.utf8Size before + 2 + Text.utf8Size body + 1 := by
    rw [Occurrence.stop, Placeholder.utf8Size_raw, Nat.add_assoc, ← Nat.add_assoc]
    rfl
  have hopening : Text.utf8Size (before ++ [sigil.char, '{']) = Text.utf8Size before + 2 := by
    rw [Text.utf8Size_append, Text.utf8Size_cons, sigil.utf8Size_char]
    rfl
  have htext : before ++ ((⟨sigil, body⟩ : Placeholder).raw ++ rest) =
      before ++ [sigil.char, '{'] ++ (body ++ '}' :: rest) := by
    simp [Placeholder.raw]
  refine
    { bytes := ?_, sigil := ?_, raw := ?_, body := ?_, start_boundary := ⟨before, _, rfl, rfl⟩,
      body_boundary := ⟨_, _, htext, hopening⟩, close_boundary := ?_, stop_boundary := ?_ }
  · rw [hstop]
    exact placeholderBytes_of_split hbody rest
  · exact (Text.byteAt?_eq_some_iff sigil.utf8Size_char).mpr ⟨before, _, rfl, rfl⟩
  · exact Text.extract_encode before _ rest
  · rw [hstop, htext, Nat.add_sub_cancel, ← hopening]
    exact Text.extract_encode (before ++ [sigil.char, '{']) body ('}' :: rest)
  · refine ⟨before ++ [sigil.char, '{'] ++ body, '}' :: rest, ?_, ?_⟩
    · rw [htext, List.append_assoc _ body]
    · rw [hstop, Nat.add_sub_cancel, Text.utf8Size_append, hopening]
  · refine ⟨before ++ (⟨sigil, body⟩ : Placeholder).raw, rest, (List.append_assoc _ _ _).symm, ?_⟩
    rw [Text.utf8Size_append]
    rfl

/-- A scanner yields exactly the placeholders of the grammar, in the order of their beginnings, and
comes to an end. -/
theorem scan_exact (t : Text) :
    (Scanner.ofText t).Yields (scan t) ∧ (scan t).Pairwise (fun o p => o.start < p.start) ∧
      (∀ start, (∃ o ∈ scan t, o.start = start) ↔ ∃ close, PlaceholderBytes t start close) ∧
      ∀ o ∈ scan t, o.CutFrom t := by
  refine ⟨Scanner.yields_collect (Nat.le_refl _), ?_, fun start => ?_, fun o => cutFrom_of_mem_scan⟩
  · rw [scan_eq]
    exact pairwise_start_scanFrom 0 t
  · constructor
    · rintro ⟨o, ho, rfl⟩
      exact ⟨_, (cutFrom_of_mem_scan ho).bytes⟩
    · rintro ⟨close, h⟩
      obtain ⟨before, p, rest, ht, hbody, rfl, -⟩ := h.exists_split
      exact ⟨⟨p, Text.utf8Size before⟩, mem_scan_iff.mpr ⟨before, rest, ht, hbody, rfl⟩, rfl⟩

/-- The inner one of two placeholders with one closing brace, behind a character of two bytes. -/
theorem scan_exact_nested :
    let t : Text := "é@{a @{b}}".toList
    let o : Occurrence := ⟨⟨.value, "b".toList⟩, 6⟩
    o ∈ scan t ∧ o.CutFrom t :=
  ⟨by decide, (scan_exact _).2.2.2 _ (by decide)⟩

/-! ## The first placeholder of a text -/

/-- A text that is a placeholder: a sigil, an opening brace, and no line break before the closing
brace that ends it. -/
def IsPlaceholder (t : Text) : Prop :=
  ∃ c body, (c = '$' ∨ c = '@' ∨ c = '#') ∧ (∀ d ∈ body, d ≠ '}' ∧ d ≠ '\n') ∧
    t = c :: '{' :: (body ++ ['}'])

/-- Some part of the text is a placeholder. -/
def HoldsPlaceholder (t : Text) : Prop :=
  ∃ before part after, t = before ++ (part ++ after) ∧ IsPlaceholder part

/-- A part of a text is its first placeholder: no other one begins earlier. -/
def IsFirstPlaceholder (t part : Text) : Prop :=
  IsPlaceholder part ∧ ∃ before after, t = before ++ (part ++ after) ∧
    ∀ before' part' after', t = before' ++ (part' ++ after') → IsPlaceholder part' →
      Text.utf8Size before ≤ Text.utf8Size before'

theorem IsFirstPlaceholder.holds {t part : Text} (h : IsFirstPlaceholder t part) :
    HoldsPlaceholder t := by
  obtain ⟨hpart, before, after, ht, -⟩ := h
  exact ⟨before, part, after, ht, hpart⟩

theorem isPlaceholder_iff {t : Text} :
    IsPlaceholder t ↔ ∃ p : Placeholder, IsBody p.body ∧ t = p.raw := by
  constructor
  · rintro ⟨c, body, rfl | rfl | rfl, hbody, rfl⟩
    · exact ⟨⟨.template, body⟩, hbody, rfl⟩
    · exact ⟨⟨.value, body⟩, hbody, rfl⟩
    · exact ⟨⟨.post, body⟩, hbody, rfl⟩
  · rintro ⟨⟨sigil, body⟩, hbody, rfl⟩
    refine ⟨sigil.char, body, ?_, hbody, rfl⟩
    cases sigil with
    | template => exact .inl rfl
    | value => exact .inr (.inl rfl)
    | post => exact .inr (.inr rfl)

theorem exists_mem_scan_of_split {part : Text} (h : IsPlaceholder part) (before after : Text) :
    ∃ o ∈ scan (before ++ (part ++ after)), o.start = Text.utf8Size before := by
  obtain ⟨p, hbody, rfl⟩ := isPlaceholder_iff.mp h
  exact ⟨⟨p, Text.utf8Size before⟩, mem_scan_iff.mpr ⟨before, after, rfl, hbody, rfl⟩, rfl⟩

theorem firstPlaceholder?_eq_scan (t : Text) :
    firstPlaceholder? t = (scan t).head?.map fun o => o.placeholder.raw := by
  rw [firstPlaceholder?_eq, placeholders, List.head?_map, Option.map_map]
  rfl

theorem firstPlaceholder?_eq_none_iff {t : Text} :
    firstPlaceholder? t = none ↔ ¬ HoldsPlaceholder t := by
  rw [firstPlaceholder?_eq_scan, Option.map_eq_none_iff, List.head?_eq_none_iff]
  constructor
  · rintro hnone ⟨before, part, after, rfl, hpart⟩
    obtain ⟨o, ho, -⟩ := exists_mem_scan_of_split hpart before after
    rw [hnone] at ho
    exact List.not_mem_nil ho
  · intro hfree
    refine List.eq_nil_iff_forall_not_mem.mpr fun o ho => hfree ?_
    obtain ⟨before, rest, ht, hbody, -⟩ := mem_scan_iff.mp ho
    exact ⟨before, _, rest, ht, isPlaceholder_iff.mpr ⟨_, hbody, rfl⟩⟩

theorem isFirst_of_firstPlaceholder? {t part : Text} (h : firstPlaceholder? t = some part) :
    IsFirstPlaceholder t part := by
  rw [firstPlaceholder?_eq_scan] at h
  obtain ⟨o, ho, rfl⟩ := Option.map_eq_some_iff.mp h
  obtain ⟨others, hscan⟩ := List.head?_eq_some_iff.mp ho
  have hmem : o ∈ scan t := by
    rw [hscan]
    exact List.mem_cons_self
  obtain ⟨before, after, ht, hbody, hstart⟩ := mem_scan_iff.mp hmem
  refine ⟨isPlaceholder_iff.mpr ⟨_, hbody, rfl⟩, before, after, ht, ?_⟩
  intro before' part' after' ht' hpart'
  obtain ⟨o', ho', hstart'⟩ := exists_mem_scan_of_split hpart' before' after'
  rw [← ht', hscan] at ho'
  rw [← hstart, ← hstart']
  rcases List.mem_cons.mp ho' with rfl | hlater
  · exact Nat.le_refl _
  · have hordered := pairwise_start_scan t
    rw [hscan] at hordered
    exact Nat.le_of_lt ((List.pairwise_cons.mp hordered).1 o' hlater)

end StaticSite
