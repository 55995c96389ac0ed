import StaticSite.Proofs.Site.Delivery

/-!
# The copied static files

Copying the static files to an empty destination makes it hold what the static folder holds
(`copyStaticFiles_of_emptied`), if neither is in the other. The folder is read while the files are
copied, but it stays as it is then (`HoldsWanted.entryAt?_of_copied`).
-/

namespace StaticSite

/-- What a folder holds, if its path leads to one. -/
def FileSystem.held? (files : FileSystem) (folder : Path) (rel : Location) : Option FileEntry :=
  if files.isDirectory folder then files.entryAt? (files.place folder ++ rel) else none

/-- The number of files that a folder holds, if its path leads to one. -/
def FileSystem.countFiles (files : FileSystem) (folder : Path) : Nat :=
  if files.isDirectory folder then
    (files.entriesFrom (files.place folder)).countP fun entry => entry.2.isFile
  else 0

/-! ## The walk through the folder -/

section Walk

variable {folder destination : Path} {wanted : Location → Option FileEntry}
  {prepared files : FileSystem} {rel : Location} {e : FileEntry}

/-- A folder holds what is wanted, in folders and under names that a path can have, and nothing of
it is in the destination. -/
structure HoldsWanted (folder destination : Path) (wanted : Location → Option FileEntry)
    (prepared : FileSystem) : Prop where
  /-- What is wanted is in the folder. -/
  entryAt?_eq : ∀ rel, prepared.entryAt? (prepared.place folder ++ rel) = wanted rel
  /-- A path can have the names. -/
  isName : ∀ rel, wanted rel ≠ none → ∀ name ∈ rel, Path.IsName name
  /-- Folders lead to what is wanted. -/
  above : ∀ rel before, wanted rel ≠ none → before <+: rel → before ≠ rel →
    wanted before = some .directory
  /-- The destination is elsewhere. -/
  apart : ∀ rel, ¬ prepared.place destination <+: prepared.place folder ++ rel

namespace HoldsWanted

variable (h : HoldsWanted folder destination wanted prepared)

include h

theorem place_ne_nil (rel : Location) : prepared.place folder ++ rel ≠ [] := by
  intro hroot
  rw [List.append_eq_nil_iff] at hroot
  refine h.apart (prepared.place destination) ?_
  rw [hroot.1]
  exact List.prefix_rfl

/-- The copying does not change the folder. -/
theorem entryAt?_of_copied (hcopied : Copied destination wanted prepared files) (rel : Location) :
    files.entryAt? (prepared.place folder ++ rel) = wanted rel :=
  (hcopied.outside _ (h.apart rel)).trans (h.entryAt?_eq rel)

/-- Nothing is wanted below a place where nothing is. -/
theorem wanted_below {before : Location} (hnone : wanted before = none) (hbefore : before <+: rel) :
    wanted rel = none := by
  by_contra hrel
  have hne : before ≠ rel := by
    rintro rfl
    exact hrel hnone
  cases hnone.symm.trans (h.above rel before hrel hbefore hne)

/-- Nothing is wanted below a file. -/
theorem wanted_below_file {content : ByteArray} {before : Location}
    (hfile : wanted before = some (.file content)) (hbefore : before <+: rel) (hne : before ≠ rel) :
    wanted rel = none := by
  by_contra hrel
  cases hfile.symm.trans (h.above rel before hrel hbefore hne)

theorem mem_entriesIn {l : Location} :
    (l, e) ∈ prepared.entriesIn (prepared.place folder ++ rel) ↔
      ∃ name, l = prepared.place folder ++ (rel ++ [name]) ∧ wanted (rel ++ [name]) = some e := by
  rw [FileSystem.mem_entriesIn]
  refine exists_congr fun name => ?_
  rw [List.append_assoc, ← h.entryAt?_eq]
  refine and_congr_right fun heq => ?_
  rw [heq]

theorem entriesFrom_perm (hwanted : wanted rel = some e) :
    (prepared.entriesFrom (prepared.place folder ++ rel)).Perm
      ([(prepared.place folder ++ rel, e)] ++
        (prepared.entriesIn (prepared.place folder ++ rel)).flatMap
          fun child => prepared.entriesFrom child.1) := by
  refine FileSystem.entriesFrom_perm (h.place_ne_nil rel) ((h.entryAt?_eq rel).trans hwanted) ?_
  intro name more hmore hnone
  rw [List.append_assoc, h.entryAt?_eq] at hmore hnone
  refine hmore (h.wanted_below hnone ⟨more, ?_⟩)
  rw [List.append_assoc, List.singleton_append]

/-- Copying an entry brings it to its place. -/
theorem delivers_copyEntry (hdestination : destination ≠ [])
    (hlast : ∀ m ∈ prepared.passed destination, ¬ prepared.place destination <+: m)
    (hwanted : wanted rel = some e) :
    Delivers destination wanted prepared (· = rel) [(prepared.place folder ++ rel, e)]
      (copyEntry folder destination (prepared.place folder) (prepared.place folder ++ rel, e)) := by
  intro files n hcopied hok
  have hsome : wanted rel ≠ none := by
    rw [hwanted]
    nofun
  have hnames := h.isName rel hsome
  cases e with
  | directory =>
    have hfolders : ∀ before, before <+: rel → wanted before = some .directory := by
      intro before hbefore
      by_cases hsame : before = rel
      · rw [hsame, hwanted]
      · exact h.above rel before hsome hbefore hsame
    obtain ⟨-, hmade, hstate, rfl⟩ := of_copyEntry_directory hok
    obtain ⟨hbrings, hentry⟩ :=
      brings_makeDirectories hcopied hnames hdestination hfolders hmade
    rw [hstate]
    exact ⟨hcopied.delivered hbrings hlast (hentry.trans hwanted.symm), rfl⟩
  | file content =>
    obtain ⟨-, hcopy, rfl⟩ := of_copyEntry_file hok
    have hplace : ∀ base, files.place (Path.join base (Text.join [Path.separator] rel)) =
        prepared.place base ++ rel := by
      intro base
      rw [FileSystem.place_join_of_isDownward (Path.isDownward_join_names hnames),
        Path.names_join_names hnames, FileSystem.place_eq hcopied.workingDirectory_eq]
    obtain ⟨read, hwrite, hread⟩ := FileSystem.exists_of_copyFile hcopy
    rw [hplace, hplace, h.entryAt?_of_copied hcopied, hwanted] at hread
    have hcontent : FileEntry.file content = .file read := by
      refine Option.some.inj (hread fun heq => h.apart rel ?_)
      rw [heq]
      exact List.prefix_append _ _
    rw [hcontent] at hwanted ⊢
    obtain ⟨hbrings, hentry⟩ := brings_writeFile hcopied hnames hwanted hwrite
    exact ⟨hcopied.delivered hbrings hlast (hentry.trans hwanted.symm), rfl⟩

/-- Copying what stands in a directory brings all that is below it. What stands there is looked up
after other files are copied, but these are elsewhere. -/
theorem delivers_children {copy : Location × FileEntry → Stage FileSystem Nat}
    (hcopy : ∀ name e, wanted (rel ++ [name]) = some e →
      Delivers destination wanted prepared (rel ++ [name] <+: ·)
        (prepared.entriesFrom (prepared.place folder ++ (rel ++ [name])))
        (copy (prepared.place folder ++ (rel ++ [name]), e))) :
    Delivers destination wanted prepared (fun r => rel <+: r ∧ r ≠ rel)
      ((prepared.entriesIn (prepared.place folder ++ rel)).flatMap
        fun child => prepared.entriesFrom child.1)
      (Stage.get >>= fun files =>
        copyEach copy (files.entriesIn (prepared.place folder ++ rel))) := by
  intro files n hcopied hok
  rw [Stage.run_get_bind] at hok ⊢
  have hsame : files.entriesIn (prepared.place folder ++ rel) =
      prepared.entriesIn (prepared.place folder ++ rel) := by
    refine FileSystem.entriesIn_congr fun name => ?_
    rw [List.append_assoc, h.entryAt?_of_copied hcopied, h.entryAt?_eq]
  rw [hsame] at hok ⊢
  have heach : Delivers destination wanted prepared
      (fun r => ∃ child ∈ prepared.entriesIn (prepared.place folder ++ rel),
        child.1 <+: prepared.place folder ++ r)
      ((prepared.entriesIn (prepared.place folder ++ rel)).flatMap
        fun child => prepared.entriesFrom child.1)
      (copyEach copy (prepared.entriesIn (prepared.place folder ++ rel))) := by
    refine Delivers.copyEach fun child hchild => ?_
    obtain ⟨l, e⟩ := child
    obtain ⟨name, rfl, hthere⟩ := h.mem_entriesIn.mp hchild
    exact (hcopy name e hthere).widen fun r hr => .inl ((List.prefix_append_right_inj _).mp hr)
  refine heach.widen ?_ files n hcopied hok
  rintro r ⟨⟨more, rfl⟩, hne⟩
  cases more with
  | nil => exact absurd (List.append_nil rel) hne
  | cons name more =>
    have hbelow : rel ++ [name] <+: rel ++ name :: more :=
      ⟨more, by rw [List.append_assoc, List.singleton_append]⟩
    cases hname : wanted (rel ++ [name]) with
    | none => exact .inr (h.wanted_below hname hbelow)
    | some child =>
      refine .inl ⟨(_, child), h.mem_entriesIn.mpr ⟨name, rfl, hname⟩, ?_⟩
      exact (List.prefix_append_right_inj _).mpr hbelow

/-- Copying an entry with what is below it brings all of it. The levels are not used up before the
names, since a path with so many names is too long. -/
theorem delivers_copyWithin (hdestination : destination ≠ [])
    (hlast : ∀ m ∈ prepared.passed destination, ¬ prepared.place destination <+: m)
    {levels : Nat} (hlevels : Path.maxBytes + 2 ≤ levels + rel.length)
    (hwanted : wanted rel = some e) :
    Delivers destination wanted prepared (rel <+: ·)
      (prepared.entriesFrom (prepared.place folder ++ rel))
      (copyWithin folder destination (prepared.place folder) levels
        (prepared.place folder ++ rel, e)) := by
  induction levels generalizing rel e with
  | zero =>
    intro files n hcopied hok
    have hshort := length_lt_of_copyEntry hok
    omega
  | succ levels ih =>
    rw [copyWithin]
    refine Delivers.of_perm ?_ (h.entriesFrom_perm hwanted)
    have hentry := h.delivers_copyEntry hdestination hlast hwanted
    cases e with
    | file content =>
      have hempty : prepared.entriesIn (prepared.place folder ++ rel) = [] := by
        refine List.eq_nil_iff_forall_not_mem.mpr ?_
        rintro ⟨l, e⟩ hchild
        obtain ⟨name, -, hthere⟩ := h.mem_entriesIn.mp hchild
        have hnone := h.wanted_below_file hwanted (List.prefix_append rel [name]) (by simp)
        cases hthere.symm.trans hnone
      rw [hempty, List.flatMap_nil, List.append_nil]
      dsimp only
      rw [bind_pure]
      refine hentry.widen fun r hr => ?_
      by_cases hsame : r = rel
      · exact .inl hsame
      · exact .inr (h.wanted_below_file hwanted hr (Ne.symm hsame))
    | directory =>
      have hdeeper : ∀ name : Text, Path.maxBytes + 2 ≤ levels + (rel ++ [name]).length := by
        intro name
        rw [List.length_append, List.length_singleton]
        omega
      have hboth := hentry.add (h.delivers_children fun name e => ih (hdeeper name))
      simp only [bind_assoc] at hboth
      refine hboth.widen fun r hr => .inl ?_
      by_cases hsame : r = rel
      · exact .inl hsame
      · exact .inr ⟨hr, hsame⟩

end HoldsWanted

end Walk

/-! ## The static folder -/

section StaticFolder

variable {folder destination : Path} {files prepared : FileSystem}
  (hprepared : Emptied destination files prepared) (hlast : files.ArrivesLast destination)

theorem FileSystem.held?_of_isDirectory (h : files.isDirectory folder = true) (rel : Location) :
    files.held? folder rel = files.entryAt? (files.place folder ++ rel) :=
  if_pos h

include hprepared hlast in
/-- Nothing is copied at first. -/
theorem Emptied.copied (hdirectory : prepared.isDirectory folder = true) :
    Copied destination (prepared.held? folder) prepared prepared := by
  refine ⟨⟨rfl, rfl, hprepared.directory_of_mem_way, fun _ _ => rfl⟩, fun rel => ?_⟩
  by_cases hrel : rel = []
  · obtain ⟨-, hway⟩ := FileSystem.isDirectory_iff.mp hdirectory
    subst hrel
    rw [FileSystem.held?_of_isDirectory hdirectory, List.append_nil, List.append_nil,
      hway _ (FileSystem.place_mem_way _ _),
      hprepared.directory_of_mem_way _ (FileSystem.place_mem_way _ _)]
    exact .inr rfl
  · left
    rw [FileSystem.place_eq hprepared.workingDirectory_eq]
    exact hprepared.entryAt?_below hlast hrel

theorem HoldsWanted.of_isDirectory (hnamed : files.WellNamed)
    (hdirectory : files.isDirectory folder = true)
    (habove : ∀ rel before, files.held? folder rel ≠ none → before <+: rel → before ≠ rel →
      files.held? folder before = some .directory)
    (hapart : ∀ rel, ¬ files.place destination <+: files.place folder ++ rel) :
    HoldsWanted folder destination (files.held? folder) files where
  entryAt?_eq rel := (FileSystem.held?_of_isDirectory hdirectory rel).symm
  isName rel hrel name hname := by
    rw [FileSystem.held?_of_isDirectory hdirectory] at hrel
    exact hnamed.isName _ hrel name (List.mem_append_right _ hname)
  above := habove
  apart := hapart

include hprepared hlast in
/-- Copying the static files to an empty destination makes it hold what the static folder holds. -/
theorem copyStaticFiles_of_emptied (hnamed : prepared.WellNamed)
    (habove : ∀ rel before, prepared.held? folder rel ≠ none → before <+: rel → before ≠ rel →
      prepared.held? folder before = some .directory)
    (hapart : ∀ rel, ¬ prepared.place destination <+: prepared.place folder ++ rel)
    {n : Nat} (hok : ((copyStaticFiles folder destination).run prepared).1.result = .ok n) :
    let copied := ((copyStaticFiles folder destination).run prepared).2
    KeepsOutside destination prepared copied ∧
      (∀ rel, rel ≠ [] →
        copied.entryAt? (prepared.place destination ++ rel) = prepared.held? folder rel) ∧
      n = prepared.countFiles folder := by
  unfold copyStaticFiles at hok ⊢
  rw [Stage.run_get_bind] at hok ⊢
  by_cases hdirectory : prepared.isDirectory folder = true
  · have hpassed : ∀ m ∈ prepared.passed destination, ¬ prepared.place destination <+: m := by
      rw [FileSystem.passed_eq hprepared.workingDirectory_eq,
        FileSystem.place_eq hprepared.workingDirectory_eq]
      exact hlast.not_prefix
    have hholds := HoldsWanted.of_isDirectory hnamed hdirectory habove hapart
    have hroot : prepared.held? folder [] = some .directory := by
      rw [FileSystem.held?_of_isDirectory hdirectory, List.append_nil]
      exact (FileSystem.isDirectory_iff.mp hdirectory).2 _ (FileSystem.place_mem_way _ _)
    have hbrings := hholds.delivers_copyWithin hlast.ne_nil hpassed (Nat.le_refl _) hroot
    rw [FileSystem.find_of_isDirectory hdirectory] at hok ⊢
    rw [List.append_nil] at hbrings
    obtain ⟨hdelivered, hcount⟩ := hbrings prepared n (hprepared.copied hlast hdirectory) hok
    refine ⟨hdelivered.toKeepsOutside, fun rel _ => hdelivered.complete rel List.nil_prefix, ?_⟩
    rw [hcount, FileSystem.countFiles, if_pos hdirectory]
  · split at hok
    · next place hfind =>
      refine absurd ?_ hdirectory
      unfold FileSystem.isDirectory
      rw [hfind]
    · cases hok
      refine ⟨⟨rfl, rfl, hprepared.directory_of_mem_way, fun _ _ => rfl⟩, fun rel hrel => ?_, ?_⟩
      · have hheld : prepared.held? folder rel = none := if_neg hdirectory
        rw [hheld, FileSystem.place_eq hprepared.workingDirectory_eq]
        exact hprepared.entryAt?_below hlast hrel
      · exact (if_neg hdirectory).symm

end StaticFolder

end StaticSite
