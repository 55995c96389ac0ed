import StaticSite.Proofs.Site.Prepare

/-!
# What copying brings to the destination

While files are copied to an empty destination, each place below it has what it should have in the
end, or nothing yet (`Copied`). A step that succeeds brings what is wanted to some places and keeps
what is there (`Delivers`), and so do steps one after the other (`Delivers.add`,
`Delivers.copyEach`).
-/

namespace StaticSite

open FileSystem (AddsOnly)

/-- Whether something is a file. -/
def FileEntry.isFile : FileEntry → Bool
  | .file _ => true
  | .directory => false

/-- Each place below the destination holds what it has to in the end, or nothing yet. Elsewhere all
is as it was. -/
structure Copied (destination : Path) (wanted : Location → Option FileEntry)
    (prepared files : FileSystem) : Prop extends KeepsOutside destination prepared files where
  /-- What is in the destination is wanted there. -/
  inside : ∀ rel, files.entryAt? (prepared.place destination ++ rel) = none ∨
    files.entryAt? (prepared.place destination ++ rel) = wanted rel

section Copy

variable {folder destination : Path} {wanted : Location → Option FileEntry}
  {prepared files changed : FileSystem} {rel : Location} {e : FileEntry}

/-- A change keeps what is there, and brings what is wanted. -/
structure BringsWanted (destination : Path) (wanted : Location → Option FileEntry)
    (prepared files changed : FileSystem) : Prop where
  /-- Relative paths start where they did. -/
  workingDirectory_eq : changed.workingDirectory = files.workingDirectory
  /-- Nothing is put in place of the root. -/
  root_eq : changed.entries.find? [] = files.entries.find? []
  /-- A place that is changed holds what is wanted there. -/
  wanted : ∀ l, changed.entryAt? l = files.entryAt? l ∨
    ∃ rel, l = prepared.place destination ++ rel ∧ changed.entryAt? l = wanted rel

/-- What is there already is wanted, so it stays. -/
theorem Copied.entryAt?_eq (h : Copied destination wanted prepared files)
    (hbrings : BringsWanted destination wanted prepared files changed)
    (hthere : files.entryAt? (prepared.place destination ++ rel) ≠ none) :
    changed.entryAt? (prepared.place destination ++ rel) =
      files.entryAt? (prepared.place destination ++ rel) := by
  rcases hbrings.wanted (prepared.place destination ++ rel) with hsame | ⟨r, heq, hnew⟩
  · exact hsame
  · obtain rfl : rel = r := List.append_cancel_left heq
    rw [hnew, (h.inside rel).resolve_left hthere]

theorem Copied.brings (h : Copied destination wanted prepared files)
    (hbrings : BringsWanted destination wanted prepared files changed)
    (hlast : ∀ m ∈ prepared.passed destination, ¬ prepared.place destination <+: m) :
    Copied destination wanted prepared changed := by
  have houtside : ∀ l, ¬ prepared.place destination <+: l →
      changed.entryAt? l = files.entryAt? l := by
    intro l hl
    rcases hbrings.wanted l with hsame | ⟨r, rfl, -⟩
    · exact hsame
    · exact absurd (List.prefix_append _ _) hl
  refine ⟨⟨hbrings.workingDirectory_eq.trans h.workingDirectory_eq,
    hbrings.root_eq.trans h.root_eq, fun m hm => ?_, fun l hl => ?_⟩, fun rel => ?_⟩
  · rcases FileSystem.mem_way.mp hm with hpassed | rfl
    · rw [houtside m (hlast m hpassed)]
      exact h.directory m hm
    · have hplace : files.entryAt? (prepared.place destination ++ []) = some .directory := by
        rw [List.append_nil]
        exact h.directory _ hm
      have hthere : files.entryAt? (prepared.place destination ++ []) ≠ none := by
        rw [hplace]
        nofun
      have hsame := h.entryAt?_eq hbrings hthere
      rwa [hplace, List.append_nil] at hsame
  · rw [houtside l hl]
    exact h.outside l hl
  · rcases hbrings.wanted (prepared.place destination ++ rel) with hsame | ⟨r, heq, hnew⟩
    · rw [hsame]
      exact h.inside rel
    · obtain rfl : rel = r := List.append_cancel_left heq
      exact .inr hnew

/-! ## One entry -/

section Entry

variable (h : Copied destination wanted prepared files)
  (hnames : ∀ name ∈ rel, Path.IsName name)

include h hnames

/-- A folder of the static files is made, with those on the way to it. -/
theorem brings_makeDirectories (hdestination : destination ≠ [])
    (hfolders : ∀ before, before <+: rel → wanted before = some .directory)
    (hok : (files.makeDirectories
      (Path.join destination (Text.join [Path.separator] rel))).2 = .ok ()) :
    BringsWanted destination wanted prepared files
        (files.makeDirectories (Path.join destination (Text.join [Path.separator] rel))).1 ∧
      (files.makeDirectories (Path.join destination (Text.join [Path.separator] rel))).1.entryAt?
        (prepared.place destination ++ rel) = some .directory := by
  have hdown := Path.isDownward_join_names hnames
  have hentries := FileSystem.entryAt?_makeDirectories hok (Path.join_ne_nil hdestination _)
  have hadds : AddsOnly (fun _ => True) (· ∈ _) (fun _ => False) files
      (files.makeDirectories (Path.join destination (Text.join [Path.separator] rel))).1 :=
    FileSystem.addsOnly_makeDirectories files _
  have hway : ∀ l, l ∈ files.way (Path.join destination (Text.join [Path.separator] rel)) ↔
      l ∈ prepared.passed destination ∨
        ∃ before, before <+: rel ∧ l = prepared.place destination ++ before := by
    intro l
    rw [FileSystem.mem_way_join_of_isDownward hdown, Path.names_join_names hnames,
      FileSystem.passed_eq h.workingDirectory_eq, FileSystem.place_eq h.workingDirectory_eq]
  refine ⟨⟨hadds.workingDirectory_eq, hadds.root_eq, fun l => ?_⟩, ?_⟩
  · rw [hentries]
    by_cases hmem : l ∈ files.way (Path.join destination (Text.join [Path.separator] rel))
    · rw [if_pos hmem]
      rcases (hway l).mp hmem with hpassed | ⟨before, hbefore, rfl⟩
      · exact .inl (h.directory l (FileSystem.mem_way.mpr (.inl hpassed))).symm
      · exact .inr ⟨before, rfl, (hfolders before hbefore).symm⟩
    · rw [if_neg hmem]
      exact .inl rfl
  · rw [hentries, if_pos ((hway _).mpr (.inr ⟨rel, List.prefix_rfl, rfl⟩))]

/-- A static file is written. -/
theorem brings_writeFile {content : ByteArray} (hwanted : wanted rel = some (.file content))
    (hok : files.writeFile (Path.join destination (Text.join [Path.separator] rel)) content =
      .ok changed) :
    BringsWanted destination wanted prepared files changed ∧
      changed.entryAt? (prepared.place destination ++ rel) = some (.file content) := by
  have hdown := Path.isDownward_join_names hnames
  have hentries := FileSystem.entryAt?_writeFile hok
  have hadds : AddsOnly (fun _ => True) (fun _ => False) (· = _) files changed :=
    FileSystem.addsOnly_writeFile hok
  rw [FileSystem.place_join_of_isDownward hdown, Path.names_join_names hnames,
    FileSystem.place_eq h.workingDirectory_eq] at hentries
  refine ⟨⟨hadds.workingDirectory_eq, hadds.root_eq, fun l => ?_⟩, ?_⟩
  · rw [hentries]
    by_cases hl : l = prepared.place destination ++ rel
    · rw [if_pos hl]
      exact .inr ⟨rel, hl, hwanted.symm⟩
    · rw [if_neg hl]
      exact .inl rfl
  · rw [hentries, if_pos rfl]

end Entry

/-! ## Steps that bring what is wanted -/

/-- What is wanted has come to some places, and nothing is gone that was in the destination. -/
structure Delivered (destination : Path) (wanted : Location → Option FileEntry)
    (prepared : FileSystem) (scope : Location → Prop) (files changed : FileSystem) : Prop
    extends Copied destination wanted prepared changed where
  /-- These places hold what is wanted. -/
  complete : ∀ rel, scope rel →
    changed.entryAt? (prepared.place destination ++ rel) = wanted rel
  /-- What was there is there still. -/
  kept : ∀ rel, files.entryAt? (prepared.place destination ++ rel) ≠ none →
    changed.entryAt? (prepared.place destination ++ rel) ≠ none

/-- A step that brings what is wanted to some places if it succeeds, and then answers with the
number of files among given entries. -/
def Delivers (destination : Path) (wanted : Location → Option FileEntry) (prepared : FileSystem)
    (scope : Location → Prop) (entries : List (Location × FileEntry))
    (x : Stage FileSystem Nat) : Prop :=
  ∀ files n, Copied destination wanted prepared files → (x.run files).1.result = .ok n →
    Delivered destination wanted prepared scope files (x.run files).2 ∧
      n = entries.countP fun entry => entry.2.isFile

section Delivers

variable {scope scope' : Location → Prop} {entries entries' : List (Location × FileEntry)}
  {last : FileSystem}

theorem Copied.delivered (h : Copied destination wanted prepared files)
    (hbrings : BringsWanted destination wanted prepared files changed)
    (hlast : ∀ m ∈ prepared.passed destination, ¬ prepared.place destination <+: m)
    (hthere : changed.entryAt? (prepared.place destination ++ rel) = wanted rel) :
    Delivered destination wanted prepared (· = rel) files changed where
  toCopied := h.brings hbrings hlast
  complete := by
    rintro r rfl
    exact hthere
  kept r hr := by
    rwa [h.entryAt?_eq hbrings hr]

/-- What has come to its place stays there while more comes. -/
theorem Delivered.trans (h : Delivered destination wanted prepared scope files changed)
    (h' : Delivered destination wanted prepared scope' changed last) :
    Delivered destination wanted prepared (fun rel => scope rel ∨ scope' rel) files last where
  toCopied := h'.toCopied
  complete rel hrel := by
    rcases hrel with hscope | hscope
    · have hthere := h.complete rel hscope
      have hinside := h'.inside rel
      cases hwanted : wanted rel with
      | none => rwa [hwanted, or_self] at hinside
      | some e =>
        rw [hwanted] at hthere
        have hkept := h'.kept rel (by rw [hthere]; nofun)
        exact (hinside.resolve_left hkept).trans hwanted
    · exact h'.complete rel hscope
  kept rel hrel := h'.kept rel (h.kept rel hrel)

/-- Where nothing is wanted, nothing comes. -/
theorem Delivered.widen (h : Delivered destination wanted prepared scope files changed)
    (hscope : ∀ rel, scope' rel → scope rel ∨ wanted rel = none) :
    Delivered destination wanted prepared scope' files changed where
  toCopied := h.toCopied
  complete rel hrel := by
    rcases hscope rel hrel with hmem | hnone
    · exact h.complete rel hmem
    · have hinside := h.inside rel
      rw [hnone, or_self] at hinside
      rw [hinside, hnone]
  kept := h.kept

theorem Delivers.widen {x : Stage FileSystem Nat}
    (h : Delivers destination wanted prepared scope entries x)
    (hscope : ∀ rel, scope' rel → scope rel ∨ wanted rel = none) :
    Delivers destination wanted prepared scope' entries x := by
  intro files n hcopied hok
  obtain ⟨hdelivered, hn⟩ := h files n hcopied hok
  exact ⟨hdelivered.widen hscope, hn⟩

theorem Delivers.of_perm {x : Stage FileSystem Nat}
    (h : Delivers destination wanted prepared scope entries x) (hperm : entries'.Perm entries) :
    Delivers destination wanted prepared scope entries' x := by
  intro files n hcopied hok
  rw [hperm.countP_eq]
  exact h files n hcopied hok

theorem Delivers.add {x y : Stage FileSystem Nat}
    (hx : Delivers destination wanted prepared scope entries x)
    (hy : Delivers destination wanted prepared scope' entries' y) :
    Delivers destination wanted prepared (fun rel => scope rel ∨ scope' rel) (entries ++ entries')
      (x >>= fun first => y >>= fun rest => pure (first + rest)) := by
  intro files n hcopied hok
  simp only [Stage.outcome_bind, Outcome.result_andThen_eq_ok_iff] at hok
  obtain ⟨first, hfirst, rest, hrest, hn⟩ := hok
  cases hn
  obtain ⟨hdelivered, hcount⟩ := hx files first hcopied hfirst
  obtain ⟨hdelivered', hcount'⟩ := hy _ rest hdelivered.toCopied hrest
  simp only [Stage.state_bind, hfirst, hrest, Stage.run_pure]
  exact ⟨hdelivered.trans hdelivered', by rw [List.countP_append, hcount, hcount']⟩

theorem Delivers.copyEach {copy : Location × FileEntry → Stage FileSystem Nat}
    {scopes : Location × FileEntry → Location → Prop}
    {all : Location × FileEntry → List (Location × FileEntry)}
    (h : ∀ entry ∈ entries,
      Delivers destination wanted prepared (scopes entry) (all entry) (copy entry)) :
    Delivers destination wanted prepared (fun rel => ∃ entry ∈ entries, scopes entry rel)
      (entries.flatMap all) (copyEach copy entries) := by
  induction entries with
  | nil =>
    intro files n hcopied hok
    cases hok
    refine ⟨⟨hcopied, fun rel hrel => ?_, fun _ hrel => hrel⟩, rfl⟩
    obtain ⟨entry, hentry, -⟩ := hrel
    exact absurd hentry List.not_mem_nil
  | cons entry entries ih =>
    obtain ⟨hentry, hentries⟩ := List.forall_mem_cons.mp h
    rw [List.flatMap_cons]
    refine (hentry.add (ih hentries)).widen fun rel hrel => .inl ?_
    obtain ⟨other, hother, hscope⟩ := hrel
    rcases List.mem_cons.mp hother with rfl | hmem
    · exact .inl hscope
    · exact .inr ⟨other, hmem, hscope⟩

end Delivers

end Copy

end StaticSite
