import StaticSite.Proofs.File.Tree
import StaticSite.Proofs.Site.Write

/-!
# Copying the static files

What copying one entry of the static folder comes to, whether it succeeds (`of_copyEntry_directory`,
`of_copyEntry_file`) or not (`relates_copyEntry`). The walk through the folder ends because paths do
not get longer than the operating system takes: with more levels it would go no further
(`copyWithin_of_le`).
-/

namespace StaticSite

/-! ## Long paths -/

theorem Text.length_le_length_join (separator : Char) (ts : List Text) :
    ts.length ≤ (Text.join [separator] ts).length + 1 := by
  induction ts with
  | nil => exact Nat.zero_le _
  | cons t ts ih =>
    by_cases hts : ts = []
    · subst hts
      exact Nat.le_add_left 1 _
    · rw [Text.join_cons t hts, List.length_append, List.length_append, List.length_singleton,
        List.length_cons]
      omega

theorem Path.length_le_length_join (base p : Path) : p.length ≤ (Path.join base p).length := by
  unfold Path.join
  split
  · exact Nat.le_refl _
  · split
    · rw [List.length_append]
      exact Nat.le_add_left _ _
    · rw [List.length_append, List.length_cons]
      omega

/-- Each name takes a byte at least, so a path of so many names is too long. -/
theorem Path.isTooLong_join {names : List Text} (h : Path.maxBytes + 2 ≤ names.length)
    (base : Path) : (Path.join base (Text.join [Path.separator] names)).isTooLong = true := by
  refine decide_eq_true ?_
  have hnames := Text.length_le_length_join Path.separator names
  have hjoin := Path.length_le_length_join base (Text.join [Path.separator] names)
  have hbytes := Text.length_le_utf8Size (Path.join base (Text.join [Path.separator] names))
  omega

/-! ## One entry -/

theorem result_checkLength_eq_ok_iff {problem : DirectoryProblem} {p checked : Path}
    {files : FileSystem} :
    ((checkLength problem p checked).run files).1.result = .ok () ↔ checked.isTooLong = false := by
  unfold checkLength
  cases checked.isTooLong with
  | true => exact ⟨nofun, nofun⟩
  | false => exact ⟨fun _ => rfl, fun _ => rfl⟩

@[simp]
theorem state_checkLength (problem : DirectoryProblem) (p checked : Path) (files : FileSystem) :
    ((checkLength problem p checked).run files).2 = files := by
  unfold checkLength
  split <;> rfl

section Entry

variable {folder destination : Path} {place rel : Location} {entry : Location × FileEntry}
  {files : FileSystem} {n : Nat}

/-- A directory that is copied is made, with those on the way to it. -/
theorem of_copyEntry_directory
    (hok : ((copyEntry folder destination place (place ++ rel, .directory)).run files).1.result =
      .ok n) :
    let target := Path.join destination (Text.join [Path.separator] rel)
    target.isTooLong = false ∧ (files.makeDirectories target).2 = .ok () ∧
      ((copyEntry folder destination place (place ++ rel, .directory)).run files).2 =
        (files.makeDirectories target).1 ∧ n = 0 := by
  unfold copyEntry at hok ⊢
  simp only [List.drop_left, Stage.outcome_bind, Outcome.result_andThen_eq_ok_iff,
    state_checkLength] at hok ⊢
  obtain ⟨_, hsource, _, htarget, _, hmade, hn⟩ := hok
  cases hn
  refine ⟨result_checkLength_eq_ok_iff.mp htarget, result_change_eq_ok_iff.mp hmade, ?_, rfl⟩
  simp only [Stage.state_bind, state_checkLength, hsource, htarget, hmade, Stage.run_pure]
  exact state_change _ _ _ files

/-- A file that is copied is read and written. -/
theorem of_copyEntry_file {content : ByteArray}
    (hok : ((copyEntry folder destination place (place ++ rel, .file content)).run files).1.result =
      .ok n) :
    let target := Path.join destination (Text.join [Path.separator] rel)
    target.isTooLong = false ∧
      files.copyFile (Path.join folder (Text.join [Path.separator] rel)) target =
        .ok ((copyEntry folder destination place (place ++ rel, .file content)).run files).2 ∧
      n = 1 := by
  unfold copyEntry at hok ⊢
  simp only [List.drop_left, Stage.outcome_bind, Outcome.result_andThen_eq_ok_iff,
    state_checkLength, Stage.run_note] at hok ⊢
  obtain ⟨_, -, _, hsource, _, htarget, _, hcopied, hn⟩ := hok
  cases hn
  refine ⟨result_checkLength_eq_ok_iff.mp htarget, ?_, rfl⟩
  simp only [Stage.state_bind, Stage.run_note, Outcome.result_note, state_checkLength, hsource,
    htarget, hcopied, Stage.run_pure]
  exact eq_ok_of_change hcopied

/-- An entry is copied only if the path of its copy is not too long. -/
theorem length_lt_of_copyEntry {e : FileEntry}
    (hok : ((copyEntry folder destination place (place ++ rel, e)).run files).1.result = .ok n) :
    rel.length < Path.maxBytes + 2 := by
  refine Nat.lt_of_not_le fun hlong => ?_
  have htoo := Path.isTooLong_join hlong destination
  cases e with
  | directory => cases htoo.symm.trans (of_copyEntry_directory hok).1
  | file content => cases htoo.symm.trans (of_copyEntry_file hok).1

/-- Whether it succeeds or not, copying an entry makes a directory or writes a file, or does
nothing. -/
theorem relates_copyEntry {R : FileSystem → FileSystem → Prop} (hrefl : ∀ files, R files files)
    (htrans : ∀ a b c, R a b → R b c → R a c)
    (hmake : ∀ files : FileSystem, R files (files.makeDirectories
      (Path.join destination (Text.join [Path.separator] (entry.1.drop place.length)))).1)
    (hwrite : ∀ (files changed : FileSystem) content, files.writeFile
      (Path.join destination (Text.join [Path.separator] (entry.1.drop place.length))) content =
        .ok changed → R files changed) :
    Stage.Relates R (copyEntry folder destination place entry) := by
  have hcheck : ∀ problem p checked, Stage.Relates R (checkLength problem p checked) := by
    intro problem p checked files
    rw [state_checkLength]
    exact hrefl files
  unfold copyEntry
  dsimp only
  split
  · refine .bind htrans (hcheck _ _ _) fun _ => .bind htrans (hcheck _ _ _) fun _ => ?_
    exact .bind htrans (relates_change hmake) fun _ => .lift hrefl _
  · refine .bind htrans (.lift hrefl _) fun _ => .bind htrans (hcheck _ _ _) fun _ => ?_
    refine .bind htrans (hcheck _ _ _) fun _ => ?_
    refine .bind htrans (relates_change fun files => ?_) fun _ => .lift hrefl _
    cases hcopy : files.copyFile _ _ with
    | error cause => exact hrefl files
    | ok changed =>
      obtain ⟨content, hwritten, -⟩ := FileSystem.exists_of_copyFile hcopy
      exact hwrite files changed content hwritten

end Entry

/-! ## All entries -/

section Walk

variable {folder destination : Path} {place : Location} {entry : Location × FileEntry}

theorem relates_copyEach {R : FileSystem → FileSystem → Prop} (hrefl : ∀ files, R files files)
    (htrans : ∀ a b c, R a b → R b c → R a c) {copy : Location × FileEntry → Stage FileSystem Nat}
    {entries : List (Location × FileEntry)} (h : ∀ entry ∈ entries, Stage.Relates R (copy entry)) :
    Stage.Relates R (copyEach copy entries) := by
  induction entries with
  | nil => exact .lift hrefl _
  | cons entry entries ih =>
    obtain ⟨hentry, hentries⟩ := List.forall_mem_cons.mp h
    exact .bind htrans hentry fun _ => .bind htrans (ih hentries) fun _ => .lift hrefl _

theorem copyEach_congr {copy copy' : Location × FileEntry → Stage FileSystem Nat}
    {entries : List (Location × FileEntry)} (h : ∀ entry ∈ entries, copy entry = copy' entry) :
    copyEach copy entries = copyEach copy' entries := by
  induction entries with
  | nil => rfl
  | cons entry entries ih =>
    obtain ⟨hentry, hentries⟩ := List.forall_mem_cons.mp h
    rw [copyEach, copyEach, hentry, ih hentries]

/-- With that many levels the walk does not stop short: one more changes nothing. -/
theorem copyWithin_succ {levels : Nat} {rel : Location} {e : FileEntry}
    (h : Path.maxBytes + 2 ≤ levels + rel.length) :
    copyWithin folder destination place (levels + 1) (place ++ rel, e) =
      copyWithin folder destination place levels (place ++ rel, e) := by
  induction levels generalizing rel e with
  | zero =>
    funext files
    rw [copyWithin, copyWithin]
    refine Stage.run_bind_of_failed (fun n hok => ?_) _
    have hshort := length_lt_of_copyEntry hok
    omega
  | succ levels ih =>
    rw [copyWithin, copyWithin]
    refine congrArg _ (funext fun first => ?_)
    cases e with
    | file content => rfl
    | directory =>
      dsimp only
      refine congrArg _ (funext fun files => ?_)
      rw [copyEach_congr fun entry hentry => ?_]
      obtain ⟨name, hname, -⟩ := FileSystem.mem_entriesIn.mp hentry
      obtain ⟨l, e⟩ := entry
      rw [List.append_assoc] at hname
      obtain rfl := hname
      refine ih ?_
      rw [List.length_append, List.length_singleton]
      omega

/-- More levels than the walk is given change nothing. -/
theorem copyWithin_of_le {levels : Nat} (h : Path.maxBytes + 2 ≤ levels) (e : FileEntry) :
    copyWithin folder destination place levels (place, e) =
      copyWithin folder destination place (Path.maxBytes + 2) (place, e) := by
  obtain ⟨more, rfl⟩ := Nat.exists_eq_add_of_le h
  induction more with
  | zero => rfl
  | succ more ih =>
    have hmore : Path.maxBytes + 2 ≤ Path.maxBytes + 2 + more := Nat.le_add_right _ _
    have hsucc : copyWithin folder destination place (Path.maxBytes + 2 + more + 1)
        (place ++ [], e) =
          copyWithin folder destination place (Path.maxBytes + 2 + more) (place ++ [], e) :=
      copyWithin_succ hmore
    rw [List.append_nil] at hsucc
    rw [← Nat.add_assoc, hsucc, ih hmore]

end Walk

end StaticSite
