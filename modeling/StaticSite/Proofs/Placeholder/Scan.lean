import StaticSite.Placeholder.ListBlock

/-!
# Scanning, character by character

A scanner jumps from sigil to sigil and over opening braces. It misses nothing by that: `scanFrom`
looks at every character of a text, and finds the same placeholders (`scan_eq`). What follows is
about `scanFrom`, from the first character of a text on and for two texts behind each other.

The offsets only count bytes: `placeholders` is the scan without them, and most questions about a
text (whether it has a list start, which templates it includes) are questions about `placeholders`.

A text is `Closed` when no placeholder that begins in it reaches past its end, whatever follows. The
scan of a closed text and a text behind it is the scan of the one and then that of the other.
-/

namespace StaticSite

/-- The placeholders of a text that begins at byte offset `offset` of the whole, looked for at each
of its characters. -/
def scanFrom (offset : Nat) : Text → List Occurrence
  | [] => []
  | c :: t =>
    match Placeholder.atStart? (c :: t) with
    | some (p, _) => ⟨p, offset⟩ :: scanFrom (offset + c.utf8Size) t
    | none => scanFrom (offset + c.utf8Size) t

theorem Placeholder.raw_append (p : Placeholder) (t : Text) :
    p.raw ++ t = p.sigil.char :: '{' :: (p.body ++ '}' :: t) := by
  simp [Placeholder.raw]

/-! ## The first character -/

theorem scanFrom_cons_none {c : Char} {t : Text} (h : Placeholder.atStart? (c :: t) = none)
    (offset : Nat) : scanFrom offset (c :: t) = scanFrom (offset + c.utf8Size) t := by
  rw [scanFrom, h]

theorem scanFrom_cons_some {c : Char} {t rest : Text} {p : Placeholder}
    (h : Placeholder.atStart? (c :: t) = some (p, rest)) (offset : Nat) :
    scanFrom offset (c :: t) = ⟨p, offset⟩ :: scanFrom (offset + c.utf8Size) t := by
  rw [scanFrom, h]

/-! ## Scanners -/

/-- A character that is no sigil begins no placeholder. -/
theorem atStart?_of_ofChar?_eq_none {c : Char} (h : Sigil.ofChar? c = none) (t : Text) :
    Placeholder.atStart? (c :: t) = none := by
  cases t with
  | nil => rfl
  | cons b rest => rw [Placeholder.atStart?, h]

/-- An opening brace stands behind a sigil and is none. -/
theorem scanFrom_brace (offset : Nat) (t : Text) :
    scanFrom offset ('{' :: t) = scanFrom (offset + 1) t :=
  scanFrom_cons_none (atStart?_of_ofChar?_eq_none rfl t) offset

theorem Sigil.utf8Size_of_ofChar? {c : Char} {sigil : Sigil} (h : ofChar? c = some sigil) :
    c.utf8Size = 1 := by
  rw [ofChar?_eq_some_iff.mp h]
  cases sigil <;> rfl

/-- What a scanner skips holds no placeholder, and behind the one it finds it misses none: the
brace that it jumps over begins none. -/
theorem scanFrom_eq_nextFrom (position : Nat) (t : Text) :
    scanFrom position t =
      match Scanner.nextFrom position t with
      | none => []
      | some (o, s) => o :: scanFrom s.position s.rest := by
  fun_induction Scanner.nextFrom position t with
  | case1 position => rfl
  | case2 position c t hc ih =>
    rw [scanFrom_cons_none (atStart?_of_ofChar?_eq_none hc t), ih]
  | case3 position c sigil hc =>
    rw [scanFrom_cons_none rfl]
    rfl
  | case4 position c sigil hc rest body after hclose =>
    have hp : Placeholder.atStart? (c :: '{' :: rest) = some (⟨sigil, body⟩, after) := by
      simp [Placeholder.atStart?, hc, hclose]
    rw [scanFrom_cons_some hp, scanFrom_brace, Sigil.utf8Size_of_ofChar? hc]
  | case5 position c sigil hc rest hclose ih =>
    have hp : Placeholder.atStart? (c :: '{' :: rest) = none := by
      simp [Placeholder.atStart?, hc, hclose]
    rw [scanFrom_cons_none hp, scanFrom_brace, Sigil.utf8Size_of_ofChar? hc, ih]
  | case6 position c sigil hc b rest hb ih =>
    have hp : Placeholder.atStart? (c :: b :: rest) = none := by
      simp [Placeholder.atStart?, hc, hb]
    rw [scanFrom_cons_none hp, Sigil.utf8Size_of_ofChar? hc, ih]

/-- A scanner comes closer to the end of the text with each placeholder. -/
theorem Scanner.length_rest_lt {s s' : Scanner} {o : Occurrence} (h : s.next? = some (o, s')) :
    s'.rest.length < s.rest.length := by
  obtain ⟨position, t⟩ := s
  rw [next?] at h
  simp only at h
  fun_induction Scanner.nextFrom position t with
  | case1 => cases h
  | case2 position c t hc ih => exact Nat.lt_succ_of_lt (ih h)
  | case3 => cases h
  | case4 position c sigil hc rest body after hclose =>
    cases h
    simp only [List.length_cons]
    omega
  | case5 position c sigil hc rest hclose ih => exact Nat.lt_add_right 2 (ih h)
  | case6 position c sigil hc b rest hb ih => exact Nat.lt_succ_of_lt (ih h)

/-- A scanner finds what is found at the characters that it has not come to. -/
theorem Scanner.collect_eq {s : Scanner} {limit : Text} (h : s.rest.length ≤ limit.length) :
    s.collect limit = scanFrom s.position s.rest := by
  induction limit generalizing s with
  | nil =>
    rw [List.length_nil, Nat.le_zero, List.length_eq_zero_iff] at h
    rw [h]
    rfl
  | cons c limit ih =>
    rw [collect, scanFrom_eq_nextFrom]
    cases hnext : s.next? with
    | none =>
      rw [next?] at hnext
      rw [hnext]
    | some found =>
      obtain ⟨o, s'⟩ := found
      have hlt := length_rest_lt hnext
      rw [List.length_cons] at h
      rw [next?] at hnext
      rw [hnext]
      simp only [ih (by omega : s'.rest.length ≤ limit.length)]

theorem scan_eq (t : Text) : scan t = scanFrom 0 t :=
  Scanner.collect_eq (Nat.le_refl _)

/-! ## Parts of a text -/

/-- What a scan from `offset` finds does not begin before `offset`. -/
theorem le_start_of_mem_scanFrom {offset : Nat} {t : Text} {o : Occurrence}
    (h : o ∈ scanFrom offset t) : offset ≤ o.start := by
  induction t generalizing offset with
  | nil => simp [scanFrom] at h
  | cons c t ih =>
    cases hp : Placeholder.atStart? (c :: t) with
    | none =>
      rw [scanFrom_cons_none hp] at h
      have := ih h
      omega
    | some found =>
      rw [scanFrom_cons_some hp] at h
      rcases List.mem_cons.mp h with rfl | h
      · exact Nat.le_refl _
      · have := ih h
        omega

/-- The scan of two texts behind each other ends with the scan of the second one. What comes before
begins in the first one. -/
theorem exists_scanFrom_append (offset : Nat) (s t : Text) :
    ∃ inner, scanFrom offset (s ++ t) = inner ++ scanFrom (offset + Text.utf8Size s) t ∧
      ∀ o ∈ inner, o.start < offset + Text.utf8Size s := by
  induction s generalizing offset with
  | nil => exact ⟨[], by simp, fun o ho => absurd ho List.not_mem_nil⟩
  | cons c s ih =>
    obtain ⟨inner, heq, hlt⟩ := ih (offset + c.utf8Size)
    have hc := c.utf8Size_pos
    rw [Text.utf8Size_cons, ← Nat.add_assoc]
    cases hp : Placeholder.atStart? (c :: (s ++ t)) with
    | none => exact ⟨inner, by rw [List.cons_append, scanFrom_cons_none hp, heq], hlt⟩
    | some found =>
      refine ⟨⟨found.1, offset⟩ :: inner, ?_, fun o ho => ?_⟩
      · rw [List.cons_append, scanFrom_cons_some hp, heq, List.cons_append]
      · rcases List.mem_cons.mp ho with rfl | ho
        · show offset < _
          omega
        · exact hlt o ho

/-- The scan of a text that begins with a placeholder: that one, those that begin inside of it, and
those behind it. -/
theorem exists_scanFrom_of_atStart? {t rest : Text} {p : Placeholder}
    (h : Placeholder.atStart? t = some (p, rest)) (offset : Nat) :
    ∃ inner, scanFrom offset t =
        ⟨p, offset⟩ :: (inner ++ scanFrom (offset + Text.utf8Size p.raw) rest) ∧
      ∀ o ∈ inner, o.start < offset + Text.utf8Size p.raw := by
  obtain ⟨-, ht⟩ := Placeholder.atStart?_eq_some_iff.mp h
  obtain ⟨c, s, hraw⟩ : ∃ c s, p.raw = c :: s := ⟨_, _, rfl⟩
  have ht' : t = c :: (s ++ rest) := by rw [ht, hraw, List.cons_append]
  obtain ⟨inner, heq, hlt⟩ := exists_scanFrom_append (offset + c.utf8Size) s rest
  rw [Nat.add_assoc, ← Text.utf8Size_cons, ← hraw] at heq hlt
  rw [ht'] at h ⊢
  exact ⟨inner, by rw [scanFrom_cons_some h, heq], hlt⟩

/-! ## Placeholders at the end of a text -/

namespace Placeholder

/-- A placeholder that a text begins with does not depend on what follows the text. -/
theorem atStart?_append {s rest : Text} {p : Placeholder} (h : atStart? s = some (p, rest))
    (t : Text) : atStart? (s ++ t) = some (p, rest ++ t) := by
  obtain ⟨hbody, rfl⟩ := atStart?_eq_some_iff.mp h
  exact atStart?_eq_some_iff.mpr ⟨hbody, List.append_assoc _ _ _⟩

/-- A placeholder that a text begins with only on account of what follows it reaches past its end.
-/
theorem exists_raw_eq_append {s t rest : Text} {p : Placeholder} (hs : atStart? s = none)
    (h : atStart? (s ++ t) = some (p, rest)) : ∃ y, p.raw = s ++ y ∧ y ≠ [] ∧ t = y ++ rest := by
  obtain ⟨hbody, hsplit⟩ := atStart?_eq_some_iff.mp h
  rcases List.append_eq_append_iff.mp hsplit with ⟨y, hraw, ht⟩ | ⟨gap, hgap, -⟩
  · refine ⟨y, hraw, ?_, ht⟩
    rintro rfl
    rw [List.append_nil] at hraw
    rw [atStart?_eq_some_iff.mpr ⟨hbody, by rw [hraw, List.append_nil]⟩] at hs
    cases hs
  · rw [atStart?_eq_some_iff.mpr ⟨hbody, hgap⟩] at hs
    cases hs

end Placeholder

/-! ## Offsets -/

namespace Occurrence

/-- An occurrence, seen from `d` bytes further ahead. -/
def shift (d : Nat) (o : Occurrence) : Occurrence where
  placeholder := o.placeholder
  start := o.start + d

@[simp]
theorem placeholder_shift (d : Nat) (o : Occurrence) :
    (o.shift d).placeholder = o.placeholder := rfl

@[simp]
theorem start_shift (d : Nat) (o : Occurrence) : (o.shift d).start = o.start + d := rfl

@[simp]
theorem stop_shift (d : Nat) (o : Occurrence) : (o.shift d).stop = o.stop + d := by
  simp only [stop, start_shift, placeholder_shift]
  omega

/-- A placeholder behind a text ends where the two end. -/
theorem stop_utf8Size (t : Text) (p : Placeholder) :
    (⟨p, Text.utf8Size t⟩ : Occurrence).stop = Text.utf8Size (t ++ p.raw) := by
  rw [Text.utf8Size_append]
  rfl

end Occurrence

theorem scanFrom_add (offset d : Nat) (t : Text) :
    scanFrom (offset + d) t = (scanFrom offset t).map (Occurrence.shift d) := by
  induction t generalizing offset with
  | nil => rfl
  | cons c t ih =>
    have hadd : offset + d + c.utf8Size = offset + c.utf8Size + d := by omega
    cases hp : Placeholder.atStart? (c :: t) with
    | none => rw [scanFrom_cons_none hp, scanFrom_cons_none hp, hadd, ih]
    | some found =>
      rw [scanFrom_cons_some hp, scanFrom_cons_some hp, hadd, ih, List.map_cons]
      rfl

/-! ## Placeholders without offsets -/

/-- The placeholders of a text, in order. -/
def placeholders (t : Text) : List Placeholder :=
  (scan t).map Occurrence.placeholder

theorem map_placeholder_scanFrom (offset : Nat) (t : Text) :
    (scanFrom offset t).map Occurrence.placeholder = placeholders t := by
  have h := scanFrom_add 0 offset t
  rw [Nat.zero_add] at h
  rw [h, List.map_map, placeholders, scan_eq]
  rfl

@[simp]
theorem placeholders_nil : placeholders [] = [] := rfl

theorem placeholders_cons_none {c : Char} {t : Text} (h : Placeholder.atStart? (c :: t) = none) :
    placeholders (c :: t) = placeholders t := by
  rw [placeholders, scan_eq, scanFrom_cons_none h, map_placeholder_scanFrom]

theorem placeholders_cons_some {c : Char} {t rest : Text} {p : Placeholder}
    (h : Placeholder.atStart? (c :: t) = some (p, rest)) :
    placeholders (c :: t) = p :: placeholders t := by
  rw [placeholders, scan_eq, scanFrom_cons_some h, List.map_cons, map_placeholder_scanFrom]

/-- A placeholder begins with the sigil of its family. -/
theorem char_mem_of_mem_placeholders {t : Text} {p : Placeholder} (h : p ∈ placeholders t) :
    p.sigil.char ∈ t := by
  induction t with
  | nil => exact absurd h List.not_mem_nil
  | cons c t ih =>
    cases hat : Placeholder.atStart? (c :: t) with
    | none =>
      rw [placeholders_cons_none hat] at h
      exact List.mem_cons_of_mem _ (ih h)
    | some found =>
      rw [placeholders_cons_some hat] at h
      rcases List.mem_cons.mp h with rfl | h
      · rw [(Placeholder.atStart?_eq_some_iff.mp hat).2]
        exact List.mem_cons_self
      · exact List.mem_cons_of_mem _ (ih h)

theorem countStarts_eq (t : Text) :
    ListBlock.countStarts t = (placeholders t).countP fun p => p.listStart?.isSome := by
  rw [ListBlock.countStarts, placeholders, List.countP_map]
  rfl

theorem firstPlaceholder?_eq (t : Text) :
    firstPlaceholder? t = (placeholders t).head?.map Placeholder.raw := by
  rw [placeholders, scan_eq, scanFrom_eq_nextFrom, firstPlaceholder?, Scanner.next?]
  show (Scanner.nextFrom 0 t).map _ = _
  cases Scanner.nextFrom 0 t <;> rfl

/-! ## Closed texts -/

/-- No placeholder that begins in the text reaches past its end, whatever follows. -/
def Closed (s : Text) : Prop :=
  ∀ (offset : Nat) (t : Text),
    scanFrom offset (s ++ t) = scanFrom offset s ++ scanFrom (offset + Text.utf8Size s) t

theorem Closed.nil : Closed [] := fun offset t => by simp [scanFrom]

theorem Closed.append {s t : Text} (hs : Closed s) (ht : Closed t) : Closed (s ++ t) := by
  intro offset u
  rw [List.append_assoc, hs, ht, hs offset t, List.append_assoc, Text.utf8Size_append,
    Nat.add_assoc]

/-- A character that begins no placeholder, whatever follows, may stand before a closed text. -/
theorem Closed.cons {c : Char} {s : Text} (hs : Closed s)
    (h : ∀ t, Placeholder.atStart? (c :: (s ++ t)) = none) : Closed (c :: s) := by
  intro offset t
  have hself : Placeholder.atStart? (c :: s) = none := by
    have := h []
    rwa [List.append_nil] at this
  rw [List.cons_append, scanFrom_cons_none (h t), scanFrom_cons_none hself, hs,
    Text.utf8Size_cons, Nat.add_assoc]

theorem Closed.scan_append {s : Text} (hs : Closed s) (t : Text) :
    scan (s ++ t) = scan s ++ scanFrom (Text.utf8Size s) t := by
  rw [scan_eq, hs, Nat.zero_add, scan_eq]

theorem Closed.placeholders_append {s : Text} (hs : Closed s) (t : Text) :
    placeholders (s ++ t) = placeholders s ++ placeholders t := by
  rw [placeholders, hs.scan_append, List.map_append, map_placeholder_scanFrom]
  rfl

end StaticSite
