import StaticSite.File.Path

/-!
# The parts of paths

What joining paths and going to their parents does to the parts, which are all that decides where a
path leads: the parts of joined paths stand one behind the other (`parts_join`), and the parts of a
parent are the first ones of the path (`leadsTo_of_mem_parents`).
-/

namespace StaticSite

/-! ## Pieces of texts -/

namespace Text

variable {separator : Char} {s t : Text}

theorem splitOnChar_ne_nil (separator : Char) (t : Text) : splitOnChar separator t ≠ [] := by
  cases t with
  | nil => exact List.cons_ne_nil _ _
  | cons c t =>
    rw [splitOnChar]
    split
    · exact List.cons_ne_nil _ _
    · split <;> exact List.cons_ne_nil _ _

theorem splitOnChar_cons (separator c : Char) (t : Text) :
    ∃ piece pieces, splitOnChar separator t = piece :: pieces ∧
      splitOnChar separator (c :: t) =
        if c = separator then [] :: piece :: pieces else (c :: piece) :: pieces := by
  obtain ⟨piece, pieces, hpieces⟩ := List.exists_cons_of_ne_nil (splitOnChar_ne_nil separator t)
  exact ⟨piece, pieces, hpieces, by rw [splitOnChar, hpieces]⟩

theorem splitOnChar_append (separator : Char) (s t : Text) :
    splitOnChar separator (s ++ separator :: t) =
      splitOnChar separator s ++ splitOnChar separator t := by
  induction s with
  | nil =>
    obtain ⟨piece, pieces, hpieces, hcons⟩ := splitOnChar_cons separator separator t
    rw [List.nil_append, hcons, if_pos rfl, hpieces]
    rfl
  | cons c s ih =>
    obtain ⟨piece, pieces, hpieces, hcons⟩ := splitOnChar_cons separator c s
    rw [List.cons_append, splitOnChar, ih, hcons, hpieces]
    by_cases hc : c = separator
    · simp only [List.cons_append, if_pos hc]
    · simp only [List.cons_append, if_neg hc]

theorem splitOnChar_of_notMem (h : separator ∉ t) : splitOnChar separator t = [t] := by
  induction t with
  | nil => rfl
  | cons c t ih =>
    have hc : separator ≠ c := List.ne_of_not_mem_cons h
    rw [splitOnChar, ih (List.not_mem_of_not_mem_cons h)]
    exact if_neg hc.symm

theorem notMem_of_mem_splitOnChar {piece : Text} (h : piece ∈ splitOnChar separator t) :
    separator ∉ piece := by
  induction t generalizing piece with
  | nil =>
    rw [List.mem_singleton.mp h]
    exact List.not_mem_nil
  | cons c t ih =>
    obtain ⟨first, pieces, hpieces, hcons⟩ := splitOnChar_cons separator c t
    rw [hpieces] at ih
    rw [hcons] at h
    split at h
    · rcases List.mem_cons.mp h with rfl | hlater
      · exact List.not_mem_nil
      · exact ih hlater
    · next hc =>
      rcases List.mem_cons.mp h with rfl | hlater
      · exact List.not_mem_cons_of_ne_of_not_mem (Ne.symm hc) (ih List.mem_cons_self)
      · exact ih (List.mem_cons_of_mem _ hlater)

theorem join_cons {separator : Text} (t : Text) {ts : List Text} (h : ts ≠ []) :
    join separator (t :: ts) = t ++ separator ++ join separator ts := by
  cases ts with
  | nil => exact absurd rfl h
  | cons u ts => rfl

theorem join_append {separator : Text} {ss ts : List Text} (hs : ss ≠ []) (ht : ts ≠ []) :
    join separator (ss ++ ts) = join separator ss ++ separator ++ join separator ts := by
  induction ss with
  | nil => exact absurd rfl hs
  | cons s ss ih =>
    by_cases hss : ss = []
    · subst hss
      exact join_cons s ht
    · have hne : ss ++ ts ≠ [] := List.append_ne_nil_of_left_ne_nil hss ts
      rw [List.cons_append, join_cons s hne, join_cons s hss, ih hss]
      simp only [List.append_assoc]

theorem join_splitOnChar (separator : Char) (t : Text) :
    join [separator] (splitOnChar separator t) = t := by
  induction t with
  | nil => rfl
  | cons c t ih =>
    obtain ⟨piece, pieces, hpieces, hcons⟩ := splitOnChar_cons separator c t
    rw [hpieces] at ih
    rw [hcons]
    by_cases hc : c = separator
    · rw [if_pos hc, join_cons [] (List.cons_ne_nil _ _), ih, hc]
      rfl
    · rw [if_neg hc, ← ih]
      cases pieces with
      | nil => rfl
      | cons next pieces => rfl

end Text

namespace Path

/-! ## Joined paths -/

@[simp]
theorem parts_nil : parts [] = [] := rfl

theorem parts_append (p q : Path) : parts (p ++ separator :: q) = parts p ++ parts q := by
  unfold parts
  rw [Text.splitOnChar_append, List.filter_append]

/-- The parts of joined paths stand one behind the other. -/
theorem parts_join {p : Path} (h : isAbsolute p = false) (base : Path) :
    parts (join base p) = parts base ++ parts p := by
  unfold join
  split
  · next hor =>
    have hempty : base.isEmpty = true := by simpa [h] using hor
    rw [List.isEmpty_iff.mp hempty, parts_nil, List.nil_append]
  · split
    · next hslash =>
      obtain ⟨front, rfl⟩ := List.getLast?_eq_some_iff.mp (of_decide_eq_true hslash)
      rw [List.append_assoc, List.singleton_append, parts_append, parts_append, parts_nil,
        List.append_nil]
    · exact parts_append base p

theorem isAbsolute_append {p : Path} (h : p ≠ []) (q : Path) :
    isAbsolute (p ++ q) = isAbsolute p := by
  obtain ⟨c, p, rfl⟩ := List.exists_cons_of_ne_nil h
  rfl

theorem isAbsolute_join {p : Path} (h : isAbsolute p = false) (base : Path) :
    isAbsolute (join base p) = isAbsolute base := by
  unfold join
  split
  · next hor =>
    have hempty : base.isEmpty = true := by simpa [h] using hor
    rw [h, List.isEmpty_iff.mp hempty]
    rfl
  · next hor =>
    have hne : base ≠ [] := by
      rintro rfl
      simp at hor
    split <;> exact isAbsolute_append hne _

theorem join_ne_nil {base : Path} (h : base ≠ []) (p : Path) : join base p ≠ [] := by
  have hempty : base.isEmpty = false := by simpa using h
  unfold join
  rw [hempty, Bool.or_false]
  split
  · next habs =>
    rintro rfl
    cases habs
  · split <;> exact List.append_ne_nil_of_left_ne_nil h _

/-! ## Names -/

/-- What a file or a directory can be called. -/
structure IsName (name : Text) : Prop where
  /-- A name is not empty. -/
  ne_nil : name ≠ []
  /-- A name is one part of a path. -/
  notMem : separator ∉ name
  /-- The dot does not lead to a child. -/
  ne_dot : name ≠ ['.']
  /-- The two dots do not lead to a child. -/
  ne_dots : name ≠ ['.', '.']

instance (name : Text) : Decidable (IsName name) :=
  decidable_of_iff
    (name ≠ [] ∧ separator ∉ name ∧ name ≠ ['.'] ∧ name ≠ ['.', '.'])
    ⟨fun ⟨h, h', h'', h'''⟩ => ⟨h, h', h'', h'''⟩, fun ⟨h, h', h'', h'''⟩ => ⟨h, h', h'', h'''⟩⟩

theorem isName_of_mem_parts {p : Path} {part : Text} (h : part ∈ parts p) (hdot : part ≠ ['.'])
    (hdots : part ≠ ['.', '.']) : IsName part := by
  obtain ⟨hmem, hne⟩ := List.mem_filter.mp h
  refine ⟨?_, Text.notMem_of_mem_splitOnChar hmem, hdot, hdots⟩
  rintro rfl
  exact absurd hne (by simp)

/-- The path through some names. -/
theorem parts_join_names {names : List Text} (h : ∀ name ∈ names, IsName name) :
    parts (Text.join [separator] names) = names := by
  induction names with
  | nil => rfl
  | cons name names ih =>
    obtain ⟨hname, hnames⟩ := List.forall_mem_cons.mp h
    have hone : parts name = [name] := by
      unfold parts
      rw [Text.splitOnChar_of_notMem hname.notMem]
      simp [hname.ne_nil]
    by_cases hempty : names = []
    · subst hempty
      exact hone
    · rw [Text.join_cons name hempty, List.append_assoc, List.singleton_append, parts_append, hone,
        ih hnames]
      rfl

theorem isAbsolute_join_names {names : List Text} (h : ∀ name ∈ names, IsName name) :
    isAbsolute (Text.join [separator] names) = false := by
  cases names with
  | nil => rfl
  | cons name names =>
    have hname := h name List.mem_cons_self
    have hrelative : isAbsolute name = false := by
      refine decide_eq_false fun hhead => hname.notMem ?_
      exact List.mem_of_mem_head? hhead
    by_cases hempty : names = []
    · subst hempty
      exact hrelative
    · rw [Text.join_cons name hempty, List.append_assoc, isAbsolute_append hname.ne_nil, hrelative]

/-! ## Downward paths -/

/-- The parts of a path that lead somewhere. -/
def names (p : Path) : List Text :=
  (parts p).filter fun part => part != ['.']

/-- A path that does not start at the root and never goes up. -/
structure IsDownward (p : Path) : Prop where
  /-- It starts where it is read from. -/
  isAbsolute_eq : isAbsolute p = false
  /-- It never goes up. -/
  notMem : ['.', '.'] ∉ parts p

instance (p : Path) : Decidable (IsDownward p) :=
  decidable_of_iff (isAbsolute p = false ∧ ∀ part ∈ parts p, part ≠ ['.', '.'])
    ⟨fun ⟨h, h'⟩ => ⟨h, fun hmem => h' _ hmem rfl⟩,
      fun ⟨h, h'⟩ => ⟨h, fun _ hmem heq => h' (heq ▸ hmem)⟩⟩

theorem IsDownward.isName {p : Path} (h : IsDownward p) :
    ∀ part ∈ parts p, part ≠ ['.'] → IsName part := by
  intro part hpart hdot
  refine isName_of_mem_parts hpart hdot ?_
  rintro rfl
  exact h.notMem hpart

theorem isDownward_join_names {names : List Text} (h : ∀ name ∈ names, IsName name) :
    IsDownward (Text.join [separator] names) where
  isAbsolute_eq := isAbsolute_join_names h
  notMem := by
    rw [parts_join_names h]
    exact fun hmem => (h _ hmem).ne_dots rfl

theorem names_join_names {names : List Text} (h : ∀ name ∈ names, IsName name) :
    Path.names (Text.join [separator] names) = names := by
  unfold Path.names
  rw [parts_join_names h, List.filter_eq_self]
  exact fun name hname => bne_iff_ne.mpr (h name hname).ne_dot

theorem parts_ne_nil {p : Path} (h : isAbsolute p = false) (hp : p ≠ []) : parts p ≠ [] := by
  obtain ⟨c, rest, rfl⟩ := List.exists_cons_of_ne_nil hp
  have hc : c ≠ separator := by
    rintro rfl
    cases h
  obtain ⟨piece, pieces, -, hcons⟩ := Text.splitOnChar_cons separator c rest
  unfold parts
  rw [hcons, if_neg hc, List.filter_cons_of_pos rfl]
  exact List.cons_ne_nil _ _

/-! ## Parents -/

/-- The first parts of a path, from the same start. -/
structure LeadsTo (q p : Path) : Prop where
  /-- Both start at the root, or both in the working directory. -/
  isAbsolute_eq : isAbsolute q = isAbsolute p
  /-- The one has the first parts of the other. -/
  prefix_parts : parts q <+: parts p

theorem LeadsTo.refl (p : Path) : LeadsTo p p :=
  ⟨rfl, List.prefix_rfl⟩

theorem leadsTo_append {p : Path} (h : p ≠ []) (q : Path) : LeadsTo p (p ++ separator :: q) where
  isAbsolute_eq := (isAbsolute_append h _).symm
  prefix_parts := by
    rw [parts_append]
    exact List.prefix_append _ _

theorem leadsTo_nil {p : Path} (h : isAbsolute p = false) : LeadsTo [] p :=
  ⟨h.symm, List.nil_prefix⟩

/-- A path begins with its anchor. -/
theorem anchor_append_drop (p : Path) : anchor p ++ p.drop (anchor p).length = p := by
  unfold anchor
  split
  · next habs =>
    obtain ⟨rest, rfl⟩ := List.head?_eq_some_iff.mp (of_decide_eq_true habs)
    rfl
  · split
    · next hdot =>
      -- the first piece is the dot, so the path is the dot and what follows it
      have hjoin := Text.join_splitOnChar separator p
      obtain ⟨pieces, hpieces⟩ := List.head?_eq_some_iff.mp hdot
      rw [hpieces] at hjoin
      cases pieces with
      | nil =>
        rw [← hjoin]
        rfl
      | cons piece pieces =>
        rw [← hjoin]
        rfl
    · rfl

theorem leadsTo_of_mem_aboveAnchor {p q : Path} (h : q ∈ aboveAnchor (anchor p)) :
    LeadsTo q p := by
  unfold anchor at h
  split at h
  · next habs =>
    rw [show q = [separator] from List.mem_singleton.mp h]
    exact ⟨habs.symm, List.nil_prefix⟩
  · next hrel =>
    have hrelative : isAbsolute p = false := eq_false_of_ne_true hrel
    split at h
    · next hdot =>
      rcases List.mem_cons.mp h with rfl | hlater
      · refine ⟨hrelative.symm, ?_⟩
        obtain ⟨pieces, hpieces⟩ := List.head?_eq_some_iff.mp hdot
        unfold parts
        rw [hpieces, List.filter_cons_of_pos rfl]
        exact List.cons_prefix_cons.mpr ⟨rfl, List.nil_prefix⟩
      · rw [List.mem_singleton.mp hlater]
        exact leadsTo_nil hrelative
    · rw [show q = [] from List.mem_singleton.mp h]
      exact leadsTo_nil hrelative

/-- The paths above are those of the anchor, and one for each part that leads somewhere. -/
theorem mem_endingIn {anchor : Text} {reversed : List Text} {q : Path}
    (h : q ∈ endingIn anchor reversed) :
    q ∈ aboveAnchor anchor ∨
      ∃ part before, part ≠ [] ∧ part :: before <:+ reversed ∧
        q = anchor ++ Text.join [separator] (part :: before).reverse := by
  induction reversed with
  | nil => exact .inl h
  | cons part before ih =>
    rw [endingIn] at h
    have hcases : q ∈ endingIn anchor before ∨
        part ≠ [] ∧ q = anchor ++ Text.join [separator] (part :: before).reverse := by
      split at h
      · exact .inl h
      · next hidle =>
        rcases List.mem_cons.mp h with rfl | hlater
        · refine .inr ⟨?_, rfl⟩
          rintro rfl
          exact hidle rfl
        · exact .inl hlater
    rcases hcases with hlater | ⟨hne, rfl⟩
    · rcases ih hlater with habove | ⟨found, rest, hne, hsuffix, rfl⟩
      · exact .inl habove
      · exact .inr ⟨found, rest, hne, hsuffix.trans (List.suffix_cons _ _), rfl⟩
    · exact .inr ⟨part, before, hne, List.suffix_rfl, rfl⟩

/-- The parts of a parent are the first ones of the path. -/
theorem leadsTo_of_mem_parents {p q : Path} (h : q ∈ parents p) : LeadsTo q p := by
  rcases mem_endingIn (List.mem_of_mem_tail h) with habove | ⟨part, before, hne, hsuffix, rfl⟩
  · exact leadsTo_of_mem_aboveAnchor habove
  · obtain ⟨rest, hrest⟩ : (part :: before).reverse <+:
        Text.splitOnChar separator (p.drop (anchor p).length) := by
      have hbegins := List.reverse_prefix.mpr hsuffix
      rwa [List.reverse_reverse] at hbegins
    have hnonempty : (part :: before).reverse ≠ [] := by simp
    have hq : anchor p ++ Text.join [separator] (part :: before).reverse ≠ [] := by
      have hjoin : Text.join [separator] (part :: before).reverse ≠ [] := by
        rw [List.reverse_cons]
        by_cases hbefore : before.reverse = []
        · rw [hbefore]
          exact hne
        · rw [Text.join_append hbefore (List.cons_ne_nil _ _)]
          exact List.append_ne_nil_of_right_ne_nil _ hne
      exact List.append_ne_nil_of_right_ne_nil _ hjoin
    have hp : p = anchor p ++ Text.join [separator] ((part :: before).reverse ++ rest) := by
      rw [hrest, Text.join_splitOnChar, anchor_append_drop]
    by_cases hlast : rest = []
    · rw [hlast, List.append_nil] at hp
      rw [← hp]
      exact .refl p
    · rw [Text.join_append hnonempty hlast, List.append_assoc, List.singleton_append,
        ← List.append_assoc] at hp
      have hleads := leadsTo_append hq (Text.join [separator] rest)
      rwa [← hp] at hleads

end Path

end StaticSite
