import StaticSite.Proofs.File.Change
import StaticSite.Proofs.File.Parts

/-!
# Where a path leads

There are no links, so the place that a path leads to can be told from its parts
(`FileSystem.place`). Resolving the path looks for a directory at each place on the way there
(`FileSystem.passed`), and finds what the place holds (`find_eq_directory_iff`).
-/

namespace StaticSite

namespace Location

/-- The place that a part of a path leads to. -/
def step (l : Location) (part : Text) : Location :=
  if part = ['.'] then l
  else if part = ['.', '.'] then l.dropLast
  else l ++ [part]

/-- The place that some parts lead to. -/
def along (l : Location) (parts : List Text) : Location :=
  parts.foldl step l

/-- The places that some parts lead through, without the last one. -/
def through (l : Location) : List Text → List Location
  | [] => []
  | part :: parts => l :: through (step l part) parts

theorem along_append (l : Location) (parts more : List Text) :
    along l (parts ++ more) = along (along l parts) more :=
  List.foldl_append

theorem through_append (l : Location) (parts more : List Text) :
    through l (parts ++ more) = through l parts ++ through (along l parts) more := by
  induction parts generalizing l with
  | nil => rfl
  | cons part parts ih => exact congrArg (l :: ·) (ih (step l part))

theorem along_mem_through_append (l : Location) (parts : List Text) {more : List Text}
    (h : more ≠ []) : along l parts ∈ through l (parts ++ more) := by
  obtain ⟨part, more, rfl⟩ := List.exists_cons_of_ne_nil h
  rw [through_append]
  exact List.mem_append_right _ List.mem_cons_self

theorem step_of_isName {name : Text} (h : Path.IsName name) (l : Location) :
    step l name = l ++ [name] := by
  unfold step
  rw [if_neg h.ne_dot, if_neg h.ne_dots]

section Downward

variable {parts : List Text} (h : ∀ part ∈ parts, part ≠ ['.'] → Path.IsName part)

include h

/-- Names lead downwards. -/
theorem along_of_isName (l : Location) :
    along l parts = l ++ parts.filter fun part => part != ['.'] := by
  induction parts generalizing l with
  | nil => exact (List.append_nil l).symm
  | cons part parts ih =>
    obtain ⟨hpart, hparts⟩ := List.forall_mem_cons.mp h
    show along (step l part) parts = _
    by_cases hdot : part = ['.']
    · rw [hdot, List.filter_cons_of_neg (by simp)]
      exact ih hparts l
    · rw [ih hparts, step_of_isName (hpart hdot), List.filter_cons_of_pos (by simpa using hdot),
        List.append_assoc, List.singleton_append]

/-- The places on a way downwards are those of the fewer names. -/
theorem mem_through_of_isName (l : Location) {m : Location} :
    m ∈ through l parts ++ [along l parts] ↔
      ∃ before, before <+: (parts.filter fun part => part != ['.']) ∧ m = l ++ before := by
  induction parts generalizing l with
  | nil =>
    rw [through, List.nil_append, List.mem_singleton]
    constructor
    · rintro rfl
      exact ⟨[], List.nil_prefix, (List.append_nil m).symm⟩
    · rintro ⟨before, hbegins, rfl⟩
      rw [List.prefix_nil.mp hbegins]
      exact List.append_nil l
  | cons part parts ih =>
    obtain ⟨hpart, hparts⟩ := List.forall_mem_cons.mp h
    have hfirst : l = l ++ [] := (List.append_nil l).symm
    show m ∈ l :: (through (step l part) parts ++ [along (step l part) parts]) ↔ _
    rw [List.mem_cons, ih hparts]
    by_cases hdot : part = ['.']
    · rw [hdot, List.filter_cons_of_neg (by simp)]
      constructor
      · rintro (rfl | hlater)
        · exact ⟨[], List.nil_prefix, hfirst⟩
        · exact hlater
      · exact .inr
    · rw [step_of_isName (hpart hdot), List.filter_cons_of_pos (by simpa using hdot)]
      constructor
      · rintro (rfl | ⟨before, hbegins, rfl⟩)
        · exact ⟨[], List.nil_prefix, hfirst⟩
        · exact ⟨part :: before, List.cons_prefix_cons.mpr ⟨rfl, hbegins⟩, by simp⟩
      · rintro ⟨before, hbegins, rfl⟩
        cases before with
        | nil => exact .inl (List.append_nil l)
        | cons first before =>
          obtain ⟨rfl, hlater⟩ := List.cons_prefix_cons.mp hbegins
          exact .inr ⟨before, hlater, by simp⟩

end Downward

/-- A path that goes from a place to places at and below it only. -/
structure StaysBelow (l : Location) (p : Path) : Prop where
  /-- It does not start at the root. -/
  isAbsolute_eq : Path.isAbsolute p = false
  /-- It leads to no place beside. -/
  prefix_through : ∀ m ∈ through l (Path.parts p) ++ [along l (Path.parts p)], l <+: m

/-- A path that never goes up stays below any place. -/
theorem staysBelow_of_isDownward {p : Path} (h : Path.IsDownward p) (l : Location) :
    StaysBelow l p := by
  refine ⟨h.isAbsolute_eq, fun m hm => ?_⟩
  obtain ⟨before, -, rfl⟩ := (mem_through_of_isName h.isName l).mp hm
  exact List.prefix_append l before

end Location

namespace FileSystem

/-- The place that a path starts from. -/
def start (files : FileSystem) (p : Path) : Location :=
  if Path.isAbsolute p then [] else files.workingDirectory

/-- The place that a path leads to. -/
def place (files : FileSystem) (p : Path) : Location :=
  Location.along (files.start p) (Path.parts p)

/-- The places that a path leads through before it comes to its own one. -/
def passed (files : FileSystem) (p : Path) : List Location :=
  Location.through (files.start p) (Path.parts p)

/-- The places on the way to the one that a path leads to, and this one. -/
def way (files : FileSystem) (p : Path) : List Location :=
  files.passed p ++ [files.place p]

variable {files changed : FileSystem} {p q : Path}

theorem mem_way {l : Location} : l ∈ files.way p ↔ l ∈ files.passed p ∨ l = files.place p := by
  rw [way, List.mem_append, List.mem_singleton]

theorem place_mem_way (files : FileSystem) (p : Path) : files.place p ∈ files.way p :=
  mem_way.mpr (.inr rfl)

section Start

variable (h : changed.workingDirectory = files.workingDirectory)

include h

theorem start_eq (p : Path) : changed.start p = files.start p := by
  unfold start
  rw [h]

theorem place_eq (p : Path) : changed.place p = files.place p := by
  rw [place, start_eq h, place]

theorem passed_eq (p : Path) : changed.passed p = files.passed p := by
  rw [passed, start_eq h, passed]

theorem way_eq (p : Path) : changed.way p = files.way p := by
  rw [way, place_eq h, passed_eq h, way]

end Start

theorem way_subset_of_leadsTo (h : Path.LeadsTo q p) : files.way q ⊆ files.way p := by
  have hstart : files.start q = files.start p := by
    unfold start
    rw [h.isAbsolute_eq]
  obtain ⟨more, hmore⟩ := h.prefix_parts
  intro l hl
  rw [mem_way, passed, place, hstart] at hl
  rw [mem_way, passed, place, ← hmore]
  rcases hl with hpassed | rfl
  · rw [Location.through_append]
    exact .inl (List.mem_append_left _ hpassed)
  · by_cases hempty : more = []
    · rw [hempty, List.append_nil]
      exact .inr rfl
    · exact .inl (Location.along_mem_through_append _ _ hempty)

/-! ## Joined paths -/

section Join

variable {base : Path} (h : Path.isAbsolute p = false)

include h

theorem start_join (files : FileSystem) (base : Path) :
    files.start (Path.join base p) = files.start base := by
  unfold start
  rw [Path.isAbsolute_join h]

theorem place_join (files : FileSystem) (base : Path) :
    files.place (Path.join base p) = Location.along (files.place base) (Path.parts p) := by
  rw [place, start_join h, Path.parts_join h, Location.along_append]
  rfl

theorem passed_join (files : FileSystem) (base : Path) :
    files.passed (Path.join base p) =
      files.passed base ++ Location.through (files.place base) (Path.parts p) := by
  rw [passed, start_join h, Path.parts_join h, Location.through_append]
  rfl

end Join

section Downward

variable {base : Path} (h : Path.IsDownward p)

include h

theorem place_join_of_isDownward (files : FileSystem) (base : Path) :
    files.place (Path.join base p) = files.place base ++ Path.names p := by
  rw [place_join h.isAbsolute_eq, Location.along_of_isName h.isName]
  rfl

/-- A downward path goes through the places of its first names. -/
theorem mem_way_join_of_isDownward {l : Location} :
    l ∈ files.way (Path.join base p) ↔
      l ∈ files.passed base ∨
        ∃ before, before <+: Path.names p ∧ l = files.place base ++ before := by
  rw [way, passed_join h.isAbsolute_eq, place_join h.isAbsolute_eq, List.append_assoc,
    List.mem_append, Location.mem_through_of_isName h.isName (files.place base)]
  rfl

end Downward

/-! ## Resolving -/

/-- A part leads on from a directory, unless it is the name of nothing. -/
theorem walk_cons {l : Location} (hl : files.entryAt? l = some .directory) (part : Text)
    (parts : List Text) :
    files.walk l (part :: parts) = files.walk (Location.step l part) parts ∨
      Location.step l part = l ++ [part] ∧ files.entryAt? (l ++ [part]) = none ∧
        files.walk l (part :: parts) =
          if parts.isEmpty then .ok (.free l part) else .error .notFound := by
  rw [walk, hl]
  dsimp only
  unfold Location.step
  by_cases hdot : part = ['.']
  · rw [if_pos hdot, if_pos hdot]
    exact .inl rfl
  · rw [if_neg hdot, if_neg hdot]
    by_cases hdots : part = ['.', '.']
    · rw [if_pos hdots, if_pos hdots]
      exact .inl rfl
    · rw [if_neg hdots, if_neg hdots]
      cases hchild : files.entryAt? (l ++ [part]) with
      | some e => exact .inl rfl
      | none => exact .inr ⟨rfl, rfl, rfl⟩

/-- What resolving a path finds at a place: what the place holds, or that it is free. -/
def IsAt (files : FileSystem) (l : Location) : Destination → Prop
  | .found m e => m = l ∧ files.entryAt? l = some e
  | .free folder name => folder ++ [name] = l ∧ files.entryAt? l = none

/-- What comes of walking along some parts: all places on the way are directories, and the last
place holds something or is free. -/
theorem of_walk {l : Location} {parts : List Text} {found : Destination}
    (h : files.walk l parts = .ok found) :
    (∀ m ∈ Location.through l parts, files.entryAt? m = some .directory) ∧
      files.IsAt (Location.along l parts) found := by
  induction parts generalizing l with
  | nil =>
    refine ⟨fun m hm => absurd hm List.not_mem_nil, ?_⟩
    rw [walk] at h
    cases he : files.entryAt? l with
    | none =>
      rw [he] at h
      cases h
    | some e =>
      rw [he] at h
      cases h
      exact ⟨rfl, he⟩
  | cons part parts ih =>
    have hl : files.entryAt? l = some .directory := by
      rw [walk] at h
      split at h
      · cases h
      · cases h
      · assumption
    rcases walk_cons hl part parts with hon | ⟨hstep, hfree, hend⟩
    · rw [hon] at h
      obtain ⟨hpassed, hfound⟩ := ih h
      exact ⟨List.forall_mem_cons.mpr ⟨hl, hpassed⟩, hfound⟩
    · rw [hend] at h
      split at h
      · next hlast =>
        cases h
        rw [List.isEmpty_iff.mp hlast]
        refine ⟨List.forall_mem_cons.mpr ⟨hl, fun m hm => absurd hm List.not_mem_nil⟩, ?_⟩
        exact ⟨hstep.symm, (congrArg files.entryAt? hstep).trans hfree⟩
      · cases h

/-- A walk through directories finds what the last place holds. -/
theorem walk_eq_found {l : Location} {parts : List Text} {e : FileEntry}
    (hpassed : ∀ m ∈ Location.through l parts, files.entryAt? m = some .directory)
    (he : files.entryAt? (Location.along l parts) = some e) :
    files.walk l parts = .ok (.found (Location.along l parts) e) := by
  induction parts generalizing l with
  | nil =>
    have hl : files.entryAt? l = some e := he
    rw [walk, hl]
    rfl
  | cons part parts ih =>
    obtain ⟨hl, hlater⟩ := List.forall_mem_cons.mp hpassed
    rcases walk_cons hl part parts with hon | ⟨hstep, hfree, -⟩
    · rw [hon]
      exact ih hlater he
    · -- the next place holds something: it is the last one, or one on the way
      rw [← hstep] at hfree
      cases parts with
      | nil =>
        have hnext : files.entryAt? (Location.step l part) = some e := he
        rw [hfree] at hnext
        cases hnext
      | cons next parts =>
        have hnext := hlater _ List.mem_cons_self
        rw [hfree] at hnext
        cases hnext

/-- A walk through directories, to a place that is free and that it has not been to or below
before, finds a free name. -/
theorem walk_eq_free {l : Location} {parts : List Text} (hparts : parts ≠ [])
    (hpassed : ∀ m ∈ Location.through l parts, files.entryAt? m = some .directory)
    (hfree : files.entryAt? (Location.along l parts) = none)
    (hlast : ∀ m ∈ Location.through l parts, ¬ Location.along l parts <+: m) :
    ∃ folder name, files.walk l parts = .ok (.free folder name) := by
  induction parts generalizing l with
  | nil => exact absurd rfl hparts
  | cons part parts ih =>
    obtain ⟨hl, hlater⟩ := List.forall_mem_cons.mp hpassed
    cases parts with
    | nil =>
      -- the last part is a name: the dots lead to places that the walk has been to or below
      have hstep : files.entryAt? (Location.step l part) = none := hfree
      have hbelow : ¬ Location.step l part <+: l := hlast l List.mem_cons_self
      unfold Location.step at hstep hbelow
      by_cases hdot : part = ['.']
      · rw [if_pos hdot] at hbelow
        exact absurd List.prefix_rfl hbelow
      · rw [if_neg hdot] at hstep hbelow
        by_cases hdots : part = ['.', '.']
        · rw [if_pos hdots] at hbelow
          exact absurd (List.dropLast_prefix l) hbelow
        · rw [if_neg hdots] at hstep
          refine ⟨l, part, ?_⟩
          rw [walk, hl]
          simp only [if_neg hdot, if_neg hdots, hstep]
          rfl
    | cons next parts =>
      rcases walk_cons hl part (next :: parts) with hon | ⟨hstep, hchild, -⟩
      · rw [hon]
        exact ih (List.cons_ne_nil _ _) hlater hfree fun m hm =>
          hlast m (List.mem_cons_of_mem _ hm)
      · have hnext := hlater _ List.mem_cons_self
        rw [hstep, hchild] at hnext
        cases hnext

/-- A path that the operating system takes. -/
structure IsUsable (p : Path) : Prop where
  /-- It is not empty. -/
  ne_nil : p ≠ []
  /-- It does not end early. -/
  notMem : '\x00' ∉ p

theorem follow_eq (h : IsUsable p) :
    files.follow p = files.walk (files.start p) (Path.parts p) := by
  unfold follow start
  rw [if_neg h.notMem, if_neg (by simpa using h.ne_nil)]

theorem isUsable_of_follow {found : Destination} (h : files.follow p = .ok found) :
    IsUsable p := by
  unfold follow at h
  split at h
  · cases h
  · next hnul =>
    split at h
    · cases h
    · next hempty => exact ⟨by simpa using hempty, hnul⟩

/-- What comes of following a path. -/
theorem of_follow {found : Destination} (h : files.follow p = .ok found) :
    (∀ m ∈ files.passed p, files.entryAt? m = some .directory) ∧
      files.IsAt (files.place p) found := by
  have hfollow : files.follow p = files.walk (files.start p) (Path.parts p) :=
    follow_eq (isUsable_of_follow h)
  exact of_walk (hfollow ▸ h)

theorem follow_of_find {e : FileEntry} {l : Location} (h : files.find p = .ok (l, e)) :
    files.follow p = .ok (.found l e) := by
  unfold find resolve at h
  cases hfollow : files.follow p with
  | error cause =>
    rw [hfollow] at h
    cases h
  | ok found =>
    rw [hfollow] at h
    cases found with
    | free folder name => cases h
    | found m entry =>
      cases entry with
      | directory =>
        cases h
        rfl
      | file content =>
        dsimp only at h
        split at h
        · cases h
        · next hsplit =>
          split at hsplit
          · cases hsplit
          · cases hsplit
        · next hsplit =>
          split at hsplit
          · cases hsplit
          · cases hsplit
            cases h
            rfl

theorem of_find {e : FileEntry} {l : Location} (h : files.find p = .ok (l, e)) :
    (∀ m ∈ files.passed p, files.entryAt? m = some .directory) ∧ l = files.place p ∧
      files.entryAt? (files.place p) = some e :=
  of_follow (follow_of_find h)

/-- A path leads to a directory if it leads through directories only, to one. -/
theorem find_eq_directory_iff :
    files.find p = .ok (files.place p, .directory) ↔
      IsUsable p ∧ ∀ m ∈ files.way p, files.entryAt? m = some .directory := by
  constructor
  · intro h
    obtain ⟨hpassed, -, hlast⟩ := of_find h
    refine ⟨isUsable_of_follow (follow_of_find h), fun m hm => ?_⟩
    rcases mem_way.mp hm with hmem | rfl
    · exact hpassed m hmem
    · exact hlast
  · rintro ⟨husable, hway⟩
    have hwalk : files.walk (files.start p) (Path.parts p) =
        .ok (.found (files.place p) .directory) :=
      walk_eq_found (fun m hm => hway m (mem_way.mpr (.inl hm))) (hway _ (place_mem_way files p))
    unfold find resolve
    rw [follow_eq husable, hwalk]

theorem isDirectory_iff :
    files.isDirectory p = true ↔
      IsUsable p ∧ ∀ m ∈ files.way p, files.entryAt? m = some .directory := by
  rw [← find_eq_directory_iff]
  constructor
  · intro h
    unfold isDirectory at h
    split at h
    · next l hfind =>
      obtain ⟨-, rfl, -⟩ := of_find hfind
      exact hfind
    · cases h
  · intro h
    unfold isDirectory
    rw [h]

theorem find_of_isDirectory (h : files.isDirectory p = true) :
    files.find p = .ok (files.place p, .directory) :=
  find_eq_directory_iff.mpr (isDirectory_iff.mp h)

theorem place_of_canonical {l : Location} (h : files.canonical p = .ok l) : l = files.place p := by
  unfold canonical at h
  cases hfind : files.find p with
  | error cause =>
    rw [hfind] at h
    cases h
  | ok found =>
    rw [hfind] at h
    cases h
    exact (of_find hfind).2.1

end FileSystem

end StaticSite
