import Mathlib.Data.List.Induction
import Mathlib.Data.List.Nodup
import StaticSite.Proofs.File.Operation

/-!
# Well-formed file systems

The names in a file system are such that paths can have them (`WellNamed`), and what is not the
root stands in a directory (`IsTree`). Paths bring no other names into it.
-/

namespace StaticSite

namespace FileSystem

/-- All that is in a file system can be named by a path. -/
structure WellNamed (files : FileSystem) : Prop where
  /-- The names on the way to all that is there. -/
  isName : ∀ l, files.entryAt? l ≠ none → ∀ name ∈ l, Path.IsName name
  /-- The names on the way to the working directory. -/
  isName_workingDirectory : ∀ name ∈ files.workingDirectory, Path.IsName name

/-- All that is in a file system can be named by a path and stands in a directory. -/
structure IsTree (files : FileSystem) : Prop extends WellNamed files where
  /-- What is there stands in a directory. -/
  closed : ∀ l name, files.entryAt? (l ++ [name]) ≠ none → files.entryAt? l = some .directory

variable {files changed : FileSystem} {p : Path}

theorem IsTree.directory_above (h : files.IsTree) {l m : Location} (hbegins : l <+: m)
    (hne : l ≠ m) (hm : files.entryAt? m ≠ none) : files.entryAt? l = some .directory := by
  obtain ⟨more, rfl⟩ := hbegins
  induction more using List.reverseRecOn with
  | nil => exact absurd (List.append_nil l).symm hne
  | append_singleton more name ih =>
    rw [← List.append_assoc] at hm
    have hparent := h.closed _ _ hm
    cases more with
    | nil => rwa [List.append_nil] at hparent
    | cons first more =>
      refine ih ?_ ?_
      · intro heq
        simp at heq
      · rw [hparent]
        nofun

/-- Nothing is below a place that holds nothing. -/
theorem IsTree.entryAt?_below (h : files.IsTree) {l m : Location} (hl : files.entryAt? l = none)
    (hbegins : l <+: m) : files.entryAt? m = none := by
  by_contra hm
  have hne : l ≠ m := by
    rintro rfl
    exact hm hl
  rw [h.directory_above hbegins hne hm] at hl
  cases hl

/-! ## Building a tree -/

theorem IsTree.empty : IsTree FileSystem.empty where
  isName l hl name hname := absurd (entryAt?_of_ne_nil (List.ne_nil_of_mem hname)) hl
  isName_workingDirectory _ hname := absurd hname List.not_mem_nil
  closed l name hl := absurd (entryAt?_of_ne_nil (by simp)) hl

/-- Something new is put into a directory. -/
theorem IsTree.put (h : files.IsTree) {folder : Location} {name : Text}
    (hfolder : files.entryAt? folder = some .directory) (hname : Path.IsName name)
    (hfree : files.entryAt? (folder ++ [name]) = none) (e : FileEntry) :
    (files.put (folder ++ [name]) e).IsTree := by
  have hne : folder ++ [name] ≠ [] := by simp
  refine ⟨⟨fun l hl => ?_, h.isName_workingDirectory⟩, fun l child hl => ?_⟩
  · rw [entryAt?_put_of_ne_nil hne] at hl
    by_cases hnew : l = folder ++ [name]
    · subst hnew
      rw [List.forall_mem_append, List.forall_mem_singleton]
      refine ⟨h.isName folder ?_, hname⟩
      rw [hfolder]
      nofun
    · rw [if_neg hnew] at hl
      exact h.isName l hl
  · rw [entryAt?_put_of_ne_nil hne] at hl ⊢
    by_cases hnew : l ++ [child] = folder ++ [name]
    · obtain ⟨rfl, -⟩ := List.append_inj' hnew rfl
      rw [if_neg (by simp)]
      exact hfolder
    · rw [if_neg hnew] at hl
      have hparent := h.closed l child hl
      by_cases hsame : l = folder ++ [name]
      · -- nothing stood there before, so nothing can stand in it
        rw [hsame, hfree] at hparent
        cases hparent
      · rw [if_neg hsame]
        exact hparent

theorem IsTree.put_root (h : files.IsTree) {name : Text} (hname : Path.IsName name)
    (hfree : files.entryAt? [name] = none) (e : FileEntry) : (files.put [name] e).IsTree :=
  h.put (entryAt?_nil files) hname hfree e

/-- It is enough to look at what is there. -/
theorem isTree_iff :
    files.IsTree ↔
      (∀ entry ∈ files.entries.entries, entry.1 ≠ [] → (∀ name ∈ entry.1, Path.IsName name) ∧
        files.entryAt? entry.1.dropLast = some .directory) ∧
      ∀ name ∈ files.workingDirectory, Path.IsName name := by
  constructor
  · refine fun h => ⟨fun entry hentry hne => ?_, h.isName_workingDirectory⟩
    have hthere : files.entryAt? entry.1 ≠ none := by
      rw [entryAt?_of_ne_nil hne, Dictionary.find?_of_mem_entries hentry]
      nofun
    refine ⟨h.isName entry.1 hthere, h.closed entry.1.dropLast (entry.1.getLast hne) ?_⟩
    rwa [List.dropLast_concat_getLast hne]
  · rintro ⟨hentries, hworking⟩
    have hthere : ∀ l, l ≠ [] → files.entryAt? l ≠ none →
        (∀ name ∈ l, Path.IsName name) ∧ files.entryAt? l.dropLast = some .directory := by
      intro l hne hl
      obtain ⟨e, he⟩ := Option.ne_none_iff_exists'.mp hl
      rw [entryAt?_of_ne_nil hne] at he
      exact hentries (l, e) (Dictionary.mem_entries_of_find? he) hne
    refine ⟨⟨fun l hl name hname => ?_, hworking⟩, fun l name hl => ?_⟩
    · exact (hthere l (List.ne_nil_of_mem hname) hl).1 name hname
    · have hparent := (hthere (l ++ [name]) (by simp) hl).2
      rwa [List.dropLast_concat] at hparent

instance (files : FileSystem) : Decidable files.IsTree :=
  decidable_of_iff' _ isTree_iff

/-! ## Names on the way of a path -/

theorem isName_step {l : Location} {part : Text} (hl : ∀ name ∈ l, Path.IsName name)
    (hpart : part ≠ ['.'] → part ≠ ['.', '.'] → Path.IsName part) :
    ∀ name ∈ Location.step l part, Path.IsName name := by
  intro name hname
  unfold Location.step at hname
  split at hname
  · exact hl name hname
  · next hdot =>
    split at hname
    · exact hl name (List.dropLast_subset l hname)
    · next hdots =>
      rcases List.mem_append.mp hname with hmem | hmem
      · exact hl name hmem
      · rw [List.mem_singleton.mp hmem]
        exact hpart hdot hdots

theorem isName_of_mem_through {l : Location} {parts : List Text}
    (hl : ∀ name ∈ l, Path.IsName name)
    (hparts : ∀ part ∈ parts, part ≠ ['.'] → part ≠ ['.', '.'] → Path.IsName part) :
    ∀ m ∈ Location.through l parts ++ [Location.along l parts],
      ∀ name ∈ m, Path.IsName name := by
  induction parts generalizing l with
  | nil =>
    intro m hm
    rw [List.mem_singleton.mp hm]
    exact hl
  | cons part parts ih =>
    obtain ⟨hpart, hlater⟩ := List.forall_mem_cons.mp hparts
    exact List.forall_mem_cons.mpr ⟨hl, ih (isName_step hl hpart) hlater⟩

theorem WellNamed.isName_of_mem_way (h : files.WellNamed) {m : Location} (hm : m ∈ files.way p) :
    ∀ name ∈ m, Path.IsName name := by
  have hstart : ∀ name ∈ files.start p, Path.IsName name := by
    intro name hname
    unfold start at hname
    split at hname
    · exact absurd hname List.not_mem_nil
    · exact h.isName_workingDirectory name hname
  exact isName_of_mem_through hstart (fun _ hpart => Path.isName_of_mem_parts hpart) m hm

/-- Names that can be found on the way of a path are no new ones. -/
theorem WellNamed.of_forall_way (h : files.WellNamed)
    (hworking : changed.workingDirectory = files.workingDirectory)
    (hentries : ∀ l, changed.entryAt? l ≠ none →
      files.entryAt? l ≠ none ∨ ∃ p, l ∈ files.way p) : changed.WellNamed where
  isName l hl := by
    rcases hentries l hl with hold | ⟨p, hway⟩
    · exact h.isName l hold
    · exact h.isName_of_mem_way hway
  isName_workingDirectory := hworking ▸ h.isName_workingDirectory

theorem WellNamed.makeDirectories (h : files.WellNamed) (p : Path) :
    (files.makeDirectories p).1.WellNamed := by
  have hadds : AddsOnly (fun _ => True) (· ∈ files.way p) (fun _ => False) files
      (files.makeDirectories p).1 := addsOnly_makeDirectories files p
  refine h.of_forall_way hadds.workingDirectory_eq fun l hl => ?_
  by_cases hway : l ∈ files.way p
  · exact .inr ⟨p, hway⟩
  · rw [(hadds.added l trivial).eq_of_not hway id] at hl
    exact .inl hl

theorem WellNamed.writeFile (h : files.WellNamed) {content : ByteArray}
    (hwrite : files.writeFile p content = .ok changed) : changed.WellNamed := by
  obtain ⟨-, -, rfl⟩ := of_writeFile hwrite
  refine h.of_forall_way rfl fun l hl => ?_
  rw [entryAt?_writeFile hwrite] at hl
  by_cases htarget : l = files.place p
  · exact .inr ⟨p, htarget ▸ place_mem_way files p⟩
  · rw [if_neg htarget] at hl
    exact .inl hl

/-- What stands at a place or below it, with the names on the way there. -/
theorem mem_entriesFrom {l m : Location} {e : FileEntry} (h : (m, e) ∈ files.entriesFrom l) :
    l <+: m ∧ files.entries.find? m = some e := by
  obtain ⟨hmem, hbegins⟩ := List.mem_filter.mp h
  refine ⟨List.isPrefixOf_iff_prefix.mp hbegins, ?_⟩
  exact Dictionary.find?_of_mem_entries hmem

theorem mem_entriesFrom_of_entryAt? {l m : Location} {e : FileEntry} (hm : m ≠ [])
    (hbegins : l <+: m) (h : files.entryAt? m = some e) : (m, e) ∈ files.entriesFrom l := by
  rw [entryAt?_of_ne_nil hm] at h
  refine List.mem_filter.mpr ⟨Dictionary.mem_entries_of_find? h, ?_⟩
  exact List.isPrefixOf_iff_prefix.mpr hbegins

theorem entriesFrom_congr {changed : FileSystem} {l : Location} (hl : l ≠ [])
    (h : ∀ m, l <+: m → changed.entryAt? m = files.entryAt? m) :
    changed.entriesFrom l = files.entriesFrom l := by
  show (changed.entries.filterKeys fun m => l.isPrefixOf m).entries =
    (files.entries.filterKeys fun m => l.isPrefixOf m).entries
  refine congrArg _ (Dictionary.ext_find? fun m => ?_)
  rw [Dictionary.find?_filterKeys, Dictionary.find?_filterKeys]
  by_cases hbegins : l <+: m
  · have hm : m ≠ [] := by
      rintro rfl
      exact hl (List.prefix_nil.mp hbegins)
    rw [← entryAt?_of_ne_nil hm, ← entryAt?_of_ne_nil hm, h m hbegins]
  · have hno : ¬ l.isPrefixOf m = true := by rwa [List.isPrefixOf_iff_prefix]
    rw [if_neg hno, if_neg hno]

/-- What stands in a directory is named there. -/
theorem mem_entriesIn {l m : Location} {e : FileEntry} :
    (m, e) ∈ files.entriesIn l ↔ ∃ name, m = l ++ [name] ∧ files.entryAt? m = some e := by
  unfold entriesIn
  simp only [List.mem_filter, Bool.and_eq_true, Bool.not_eq_true', List.isEmpty_eq_false_iff,
    beq_iff_eq]
  constructor
  · rintro ⟨hmem, hne, rfl⟩
    refine ⟨m.getLast hne, (List.dropLast_concat_getLast hne).symm, ?_⟩
    rw [entryAt?_of_ne_nil hne]
    exact Dictionary.find?_of_mem_entries hmem
  · rintro ⟨name, rfl, hentry⟩
    have hne : l ++ [name] ≠ [] := List.concat_ne_nil name l
    rw [entryAt?_of_ne_nil hne] at hentry
    exact ⟨Dictionary.mem_entries_of_find? hentry, hne, List.dropLast_concat⟩

theorem entriesIn_congr {changed : FileSystem} {l : Location}
    (h : ∀ name, changed.entryAt? (l ++ [name]) = files.entryAt? (l ++ [name])) :
    changed.entriesIn l = files.entriesIn l := by
  show (changed.entries.filterKeys fun m => !m.isEmpty && m.dropLast == l).entries =
    (files.entries.filterKeys fun m => !m.isEmpty && m.dropLast == l).entries
  refine congrArg _ (Dictionary.ext_find? fun m => ?_)
  rw [Dictionary.find?_filterKeys, Dictionary.find?_filterKeys]
  by_cases hin : (!m.isEmpty && m.dropLast == l) = true
  · simp only [Bool.and_eq_true, Bool.not_eq_true', List.isEmpty_eq_false_iff, beq_iff_eq] at hin
    obtain ⟨hm, rfl⟩ := hin
    have hsame := h (m.getLast hm)
    rw [List.dropLast_concat_getLast hm] at hsame
    rw [← entryAt?_of_ne_nil hm, ← entryAt?_of_ne_nil hm, hsame]
  · rw [if_neg hin, if_neg hin]

theorem nodup_entries (files : FileSystem) : files.entries.entries.Nodup :=
  List.Nodup.of_map Prod.fst (Dictionary.nodup_keys files.entries)

/-- Places that stand in one directory are the same, or nothing is below both of them. -/
theorem eq_of_mem_entriesFrom {l : Location} {name other : Text} {entry : Location × FileEntry}
    (h : entry ∈ files.entriesFrom (l ++ [name])) (h' : entry ∈ files.entriesFrom (l ++ [other])) :
    l ++ [name] = l ++ [other] := by
  have hlength : (l ++ [name]).length = (l ++ [other]).length := by
    rw [List.length_append, List.length_append, List.length_singleton, List.length_singleton]
  have hbegins := List.prefix_of_prefix_length_le (mem_entriesFrom h).1 (mem_entriesFrom h').1
    (Nat.le_of_eq hlength)
  exact hbegins.eq_of_length hlength

theorem nodup_below (files : FileSystem) (l : Location) :
    ((files.entriesIn l).flatMap fun child => files.entriesFrom child.1).Nodup := by
  rw [List.nodup_flatMap]
  refine ⟨fun child _ => files.nodup_entries.filter _, ?_⟩
  refine (files.entries.ordered.filter _).imp_of_mem fun {child other} hchild hother hlt => ?_
  intro entry hentry hentry'
  dsimp only at hentry hentry'
  obtain ⟨name, hname, -⟩ := mem_entriesIn.mp hchild
  obtain ⟨name', hname', -⟩ := mem_entriesIn.mp hother
  rw [hname] at hentry hlt
  rw [hname'] at hentry' hlt
  rw [eq_of_mem_entriesFrom hentry hentry'] at hlt
  exact OrderedKey.lt_irrefl _ hlt

/-- At a place and below it stand the entry of the place and, for each entry in it, what stands
there and below. -/
theorem entriesFrom_perm {l : Location} {e : FileEntry} (hl : l ≠ [])
    (hentry : files.entryAt? l = some e)
    (habove : ∀ name more, files.entryAt? (l ++ name :: more) ≠ none →
      files.entryAt? (l ++ [name]) ≠ none) :
    (files.entriesFrom l).Perm
      ((l, e) :: (files.entriesIn l).flatMap fun child => files.entriesFrom child.1) := by
  have hnodup : ((l, e) :: (files.entriesIn l).flatMap fun child =>
      files.entriesFrom child.1).Nodup := by
    refine List.nodup_cons.mpr ⟨fun hmem => ?_, files.nodup_below l⟩
    obtain ⟨⟨m, e'⟩, hchild, hfrom⟩ := List.mem_flatMap.mp hmem
    obtain ⟨name, rfl, -⟩ := mem_entriesIn.mp hchild
    have hshort := (mem_entriesFrom hfrom).1.length_le
    rw [List.length_append, List.length_singleton] at hshort
    exact absurd hshort (Nat.not_succ_le_self _)
  refine (List.perm_ext_iff_of_nodup (files.nodup_entries.filter _) hnodup).mpr ?_
  rintro ⟨m, e'⟩
  rw [List.mem_cons, List.mem_flatMap]
  constructor
  · intro hfrom
    obtain ⟨⟨rel, rfl⟩, hfind⟩ := mem_entriesFrom hfrom
    have hthere : files.entryAt? (l ++ rel) = some e' := by
      rwa [entryAt?_of_ne_nil (List.append_ne_nil_of_left_ne_nil hl rel)]
    cases rel with
    | nil =>
      rw [List.append_nil, hentry] at hthere
      cases hthere
      exact .inl (by rw [List.append_nil])
    | cons name more =>
      have hsome : files.entryAt? (l ++ name :: more) ≠ none := by
        rw [hthere]
        nofun
      obtain ⟨child, hchild⟩ := Option.ne_none_iff_exists'.mp (habove name more hsome)
      refine .inr ⟨(l ++ [name], child), mem_entriesIn.mpr ⟨name, rfl, hchild⟩, ?_⟩
      refine mem_entriesFrom_of_entryAt? (List.append_ne_nil_of_left_ne_nil hl _) ?_ hthere
      exact ⟨more, by rw [List.append_assoc, List.singleton_append]⟩
  · rintro (heq | ⟨⟨m', e''⟩, hchild, hfrom⟩)
    · cases heq
      exact mem_entriesFrom_of_entryAt? hl List.prefix_rfl hentry
    · obtain ⟨name, rfl, -⟩ := mem_entriesIn.mp hchild
      obtain ⟨hbegins, hfind⟩ := mem_entriesFrom hfrom
      have hbelow : l <+: m := (List.prefix_append l [name]).trans hbegins
      have hm : m ≠ [] := by
        rintro rfl
        exact hl (List.prefix_nil.mp hbelow)
      refine mem_entriesFrom_of_entryAt? hm hbelow ?_
      rwa [entryAt?_of_ne_nil hm]

theorem WellNamed.isName_of_mem_entriesIn (h : files.WellNamed) {l : Location}
    {entry : Location × FileEntry} (hentry : entry ∈ files.entriesIn l) :
    ∀ name ∈ entry.1, Path.IsName name := by
  obtain ⟨m, e⟩ := entry
  obtain ⟨name, rfl, hthere⟩ := mem_entriesIn.mp hentry
  refine h.isName _ ?_
  rw [hthere]
  nofun

end FileSystem

end StaticSite
