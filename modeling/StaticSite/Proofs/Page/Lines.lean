import StaticSite.Page.Listing
import StaticSite.Proofs.File.Parts
import StaticSite.Proofs.Placeholder.Seam

/-!
# Line by line

No placeholder reaches over a line break. So a text may be scanned, filled in and checked line by
line (`scanFrom_append_break`, `substitute_append_break`), and what stands behind a separator of
list blocks never forms a placeholder with what stands before it (`line_local`).
-/

namespace StaticSite

open Placeholder

/-! ## The seam at a line break -/

/-- A placeholder is written in one line. -/
theorem break_notMem_raw {p : Placeholder} (h : IsBody p.body) : '\n' ∉ p.raw := by
  intro hmem
  have hsigil : '\n' ≠ p.sigil.char := by cases p.sigil <;> decide
  unfold raw at hmem
  rcases List.mem_append.mp hmem with hopening | hclosing
  · rcases List.mem_cons.mp hopening with hsame | hbehind
    · exact hsigil hsame
    · rcases List.mem_cons.mp hbehind with hbrace | hbody
      · exact absurd hbrace (by decide)
      · exact (h _ hbody).2 rfl
  · exact absurd (List.mem_singleton.mp hclosing) (by decide)

/-- What a text begins with does not depend on what follows a line break behind it. -/
theorem atStart?_append_break (s t : Text) :
    atStart? (s ++ '\n' :: t) =
      (atStart? s).map fun found => (found.1, found.2 ++ '\n' :: t) := by
  cases hself : atStart? s with
  | some found =>
    obtain ⟨p, rest⟩ := found
    exact atStart?_append hself ('\n' :: t)
  | none =>
    cases hwhole : atStart? (s ++ '\n' :: t) with
    | none => rfl
    | some found =>
      obtain ⟨p, rest⟩ := found
      obtain ⟨y, hraw, hy, ht⟩ := exists_raw_eq_append hself hwhole
      obtain ⟨c, y, rfl⟩ := List.exists_cons_of_ne_nil hy
      -- it would have the line break in its written form
      obtain rfl : '\n' = c := List.head_eq_of_cons_eq ht
      refine absurd ?_ (break_notMem_raw (atStart?_eq_some_iff.mp hwhole).1)
      rw [hraw]
      exact List.mem_append_right _ List.mem_cons_self

theorem isSigil_break : isSigil '\n' = false := by decide

/-! ## Scanning -/

theorem scanFrom_append_break (offset : Nat) (a b : Text) :
    scanFrom offset (a ++ '\n' :: b) =
      scanFrom offset a ++ scanFrom (offset + Text.utf8Size a + 1) b := by
  induction a generalizing offset with
  | nil => exact scanFrom_cons_none (atStart?_of_not_sigil isSigil_break b) offset
  | cons c a ih =>
    have hseam : atStart? (c :: (a ++ '\n' :: b)) = _ := atStart?_append_break (c :: a) b
    rw [List.cons_append, Text.utf8Size_cons, ← Nat.add_assoc offset]
    cases hself : atStart? (c :: a) with
    | none =>
      rw [hself] at hseam
      rw [scanFrom_cons_none hself, scanFrom_cons_none hseam, ih]
    | some found =>
      rw [hself] at hseam
      rw [scanFrom_cons_some hself, scanFrom_cons_some hseam, ih, List.cons_append]

/-- The placeholders of two texts with a line break between them are those of the first one, and
those of the second one further on. -/
theorem scan_append_break (a b : Text) :
    scan (a ++ '\n' :: b) = scan a ++ (scan b).map (Occurrence.shift (Text.utf8Size a + 1)) := by
  rw [scan_eq, scan_eq, scan_eq, scanFrom_append_break, ← scanFrom_add, Nat.add_assoc]

theorem placeholders_append_break (a b : Text) :
    placeholders (a ++ '\n' :: b) = placeholders a ++ placeholders b := by
  rw [placeholders, scan_append_break, List.map_append, List.map_map]
  rfl

/-! ## Substitution -/

theorem substitute_append_break (resolve : Resolver) (a b : Text) :
    substitute resolve (a ++ '\n' :: b) =
      substitute resolve a ++ '\n' :: substitute resolve b := by
  match a with
  | [] => exact substitute_cons_plain resolve isSigil_break b
  | c :: a =>
    have hseam : atStart? (c :: (a ++ '\n' :: b)) = _ := atStart?_append_break (c :: a) b
    rw [List.cons_append]
    cases hself : atStart? (c :: a) with
    | none =>
      rw [hself] at hseam
      rw [substitute_cons_none resolve hself, substitute_cons_none resolve hseam,
        substitute_append_break resolve a b, List.cons_append]
    | some found =>
      obtain ⟨p, rest⟩ := found
      rw [hself] at hseam
      cases hp : resolve p with
      | none =>
        rw [substitute_cons_kept hself hp, substitute_cons_kept hseam hp,
          substitute_append_break resolve a b, List.cons_append]
      | some value =>
        -- reading goes on behind the placeholder, which ends before the line break
        have hshorter := length_lt_of_atStart? hself
        rw [substitute_cons_filled hself hp, substitute_cons_filled hseam hp,
          substitute_append_break resolve rest b, List.append_assoc]
termination_by a.length
decreasing_by
  · exact Nat.lt_succ_self a.length
  · exact Nat.lt_succ_self a.length
  · exact hshorter

/-! ## The lines of a text -/

/-- The lines of a text, without the line breaks between them. -/
abbrev Text.lines (t : Text) : List Text :=
  Text.splitOnChar '\n' t

/-- What holds of a line, and goes on from a text to a line before it, holds of each text and its
lines. -/
theorem Text.rec_lines {P : Text → List Text → Prop} (hlast : ∀ line, P line [line])
    (hbreak : ∀ line t lines, lines ≠ [] → P t lines → P (line ++ '\n' :: t) (line :: lines))
    (t : Text) : P t t.lines := by
  have hpieces : ∀ pieces, pieces ≠ [] → P (join ['\n'] pieces) pieces := by
    intro pieces hne
    induction pieces with
    | nil => exact absurd rfl hne
    | cons piece pieces ih =>
      by_cases hnil : pieces = []
      · subst hnil
        exact hlast piece
      · rw [join_cons piece hnil, List.append_assoc, List.singleton_append]
        exact hbreak piece _ pieces hnil (ih hnil)
  have hwhole := hpieces t.lines (splitOnChar_ne_nil '\n' t)
  rwa [join_splitOnChar] at hwhole

/-- What goes on apart at each line break goes line by line. -/
theorem eq_join_map_lines {f : Text → Text}
    (h : ∀ a b, f (a ++ '\n' :: b) = f a ++ '\n' :: f b) (t : Text) :
    f t = Text.join ['\n'] (t.lines.map f) := by
  refine Text.rec_lines (P := fun t lines => f t = Text.join ['\n'] (lines.map f))
    (fun line => rfl) (fun line t lines hne ih => ?_) t
  have hmap : lines.map f ≠ [] := fun hnil => hne (List.map_eq_nil_iff.mp hnil)
  rw [h, ih, List.map_cons, Text.join_cons (f line) hmap, List.append_assoc,
    List.singleton_append]

/-- The placeholders of a text are those of its lines. -/
theorem placeholders_eq_flatMap_lines (t : Text) :
    placeholders t = t.lines.flatMap placeholders := by
  refine Text.rec_lines (P := fun t lines => placeholders t = lines.flatMap placeholders)
    (fun line => (List.append_nil _).symm) (fun line t lines _ ih => ?_) t
  rw [placeholders_append_break, ih, List.flatMap_cons]

theorem checkFilled_eq_ok_iff {page t : Text} :
    checkFilled page t = .ok () ↔ placeholders t = [] := by
  unfold checkFilled
  rw [firstPlaceholder?_eq]
  cases placeholders t with
  | nil => exact ⟨fun _ => rfl, fun _ => rfl⟩
  | cons p ps => exact ⟨nofun, nofun⟩

/-- A text passes the check exactly if each of its lines does. -/
theorem checkFilled_lines {page t : Text} :
    checkFilled page t = .ok () ↔ ∀ line ∈ t.lines, checkFilled page line = .ok () := by
  simp only [checkFilled_eq_ok_iff, placeholders_eq_flatMap_lines t, List.flatMap_eq_nil_iff]

/-! ## Separators -/

/-- What stands between the line breaks of a separator. -/
def separatorLine : Text :=
  "<!-- expanded block div -->".toList

theorem blockSeparator_eq : blockSeparator = '\n' :: (separatorLine ++ ['\n']) := by decide

theorem sigilFree_separatorLine : SigilFree separatorLine := by decide

theorem append_blockSeparator (a b : Text) :
    a ++ (blockSeparator ++ b) = a ++ '\n' :: (separatorLine ++ '\n' :: b) := by
  rw [blockSeparator_eq, List.cons_append, List.append_assoc, List.singleton_append]

theorem scan_append_separator (a b : Text) :
    scan (a ++ (blockSeparator ++ b)) =
      scan a ++ (scan b).map (Occurrence.shift (Text.utf8Size (a ++ blockSeparator))) := by
  have hline : scanFrom (Text.utf8Size a + 1) separatorLine = [] := by
    have hplain := scanFrom_append_plain sigilFree_separatorLine (Text.utf8Size a + 1) []
    rwa [List.append_nil] at hplain
  have hsize : Text.utf8Size blockSeparator = 1 + Text.utf8Size separatorLine + 1 := by decide
  rw [append_blockSeparator, scan_eq, scan_eq, scan_eq, scanFrom_append_break,
    scanFrom_append_break, Nat.zero_add, hline, List.nil_append, ← scanFrom_add, Nat.zero_add,
    Text.utf8Size_append, hsize]
  simp only [Nat.add_assoc]

theorem substitute_append_separator (resolve : Resolver) (a b : Text) :
    substitute resolve (a ++ (blockSeparator ++ b)) =
      substitute resolve a ++ (blockSeparator ++ substitute resolve b) := by
  have hline : substitute resolve separatorLine = separatorLine := by
    have hplain := substitute_append_plain resolve sigilFree_separatorLine []
    rwa [List.append_nil, substitute_nil, List.append_nil] at hplain
  rw [append_blockSeparator, substitute_append_break, substitute_append_break, hline,
    append_blockSeparator]

/-! ## Line by line -/

/-- Scanning and substitution go line by line: a line break parts the placeholders of a text, and
what is before it is filled in apart from what is behind it. So variables are filled in line by
line, a text passes the check exactly if each line does, and a separator parts what is before it
from what is behind it. -/
theorem line_local (resolve : Resolver) (a b : Text) :
    scan (a ++ '\n' :: b) = scan a ++ (scan b).map (Occurrence.shift (Text.utf8Size a + 1)) ∧
      substitute resolve (a ++ '\n' :: b) =
        substitute resolve a ++ '\n' :: substitute resolve b ∧
      (∀ vars t, fillVariables vars t =
        Text.join ['\n'] ((Text.lines t).map (fillVariables vars))) ∧
      (∀ page t, checkFilled page t = .ok () ↔
        ∀ line ∈ Text.lines t, checkFilled page line = .ok ()) ∧
      scan (a ++ (blockSeparator ++ b)) =
        scan a ++ (scan b).map (Occurrence.shift (Text.utf8Size (a ++ blockSeparator))) ∧
      substitute resolve (a ++ (blockSeparator ++ b)) =
        substitute resolve a ++ (blockSeparator ++ substitute resolve b) := by
  refine ⟨scan_append_break a b, substitute_append_break resolve a b, fun vars t => ?_,
    fun page t => checkFilled_lines, scan_append_separator a b,
    substitute_append_separator resolve a b⟩
  exact eq_join_map_lines (substitute_append_break (variableResolver vars)) t

end StaticSite
