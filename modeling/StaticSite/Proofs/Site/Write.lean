import StaticSite.Proofs.File.Change
import StaticSite.Site.Compile

/-!
# Writing pages

Writing a page makes folders and one file, whether it succeeds or not (`changesOnly_writePage`).
`writeEach` writes pages one after the other, as a compilation does with those that it renders.
-/

namespace StaticSite

open FileSystem (ChangesOnly)

section Change

variable {R : FileSystem → FileSystem → Prop}

theorem state_change (problem : DirectoryProblem) (p : Path)
    (act : FileSystem → FileSystem × Except FileError Unit) (files : FileSystem) :
    ((change problem p act).run files).2 = (act files).1 := by
  show (change problem p act files).2 = _
  unfold change
  rcases act files with ⟨changed, _ | _⟩ <;> rfl

theorem result_change_eq_ok_iff {problem : DirectoryProblem} {p : Path}
    {act : FileSystem → FileSystem × Except FileError Unit} {files : FileSystem} :
    ((change problem p act).run files).1.result = .ok () ↔ (act files).2 = .ok () := by
  show (change problem p act files).1.result = _ ↔ _
  unfold change
  rcases act files with ⟨changed, _ | _⟩
  · exact ⟨nofun, nofun⟩
  · exact ⟨fun _ => rfl, fun _ => rfl⟩

/-- A change that did not fail is carried out. -/
theorem eq_ok_of_change {problem : DirectoryProblem} {p : Path}
    {act : FileSystem → Except FileError FileSystem} {files : FileSystem}
    (h : ((change problem p fun files => files.orUnchanged (act files)).run files).1.result =
      .ok ()) :
    act files = .ok ((change problem p fun files => files.orUnchanged (act files)).run files).2 := by
  rw [state_change]
  have hok := result_change_eq_ok_iff.mp h
  cases hact : act files with
  | error cause =>
    rw [hact] at hok
    cases hok
  | ok changed => rfl

theorem relates_change {problem : DirectoryProblem} {p : Path}
    {act : FileSystem → FileSystem × Except FileError Unit} (h : ∀ files, R files (act files).1) :
    Stage.Relates R (change problem p act) := by
  intro files
  rw [state_change]
  exact h files

end Change

section Write

variable {allowed : Location → Option FileEntry → Prop}
  (hdirectory : ∀ l, allowed l (some .directory))

include hdirectory

/-- Writing a page changes nothing but that some places hold directories, and that one may hold the
page. -/
theorem changesOnly_writePage {page : RenderedPage}
    (hpage : ∀ l, allowed l (some (.file (Text.encode page.content)))) (destination : Path) :
    Stage.Relates (ChangesOnly allowed) (writePage destination page) := by
  have hwrite : Stage.Relates (ChangesOnly allowed)
      (change .pageNotWritten (Path.join destination page.path) fun files =>
        files.orUnchanged (files.writeFile (Path.join destination page.path)
          (Text.encode page.content))) := by
    refine relates_change fun files => ?_
    cases hfile :
      files.writeFile (Path.join destination page.path) (Text.encode page.content) with
    | error cause => exact .refl files
    | ok changed =>
      obtain ⟨l, rfl, -⟩ := FileSystem.exists_of_writeFile hfile
      exact FileSystem.changesOnly_put (hpage l)
  unfold writePage
  dsimp only
  cases Path.parent? (Path.join destination page.path) with
  | none => exact hwrite
  | some folder =>
    refine .bind ChangesOnly.trans (relates_change fun files => ?_) fun _ => hwrite
    exact FileSystem.changesOnly_makeDirectories hdirectory folder

end Write

/-- Writes pages one after the other. -/
def writeEach (destination : Path) : List RenderedPage → Stage FileSystem Unit
  | [] => pure ()
  | page :: pages => do
    writePage destination page
    writeEach destination pages

/-- Whatever comes of writing pages, each place holds what it held before, a directory, or one of
the pages. -/
theorem changesOnly_writeEach (destination : Path) (pages : List RenderedPage) :
    Stage.Relates
      (ChangesOnly fun _ e =>
        e = some .directory ∨ ∃ page ∈ pages, e = some (.file (Text.encode page.content)))
      (writeEach destination pages) := by
  induction pages with
  | nil => exact .lift ChangesOnly.refl _
  | cons page pages ih =>
    refine .bind ChangesOnly.trans ?_ fun _ => ?_
    · exact changesOnly_writePage (fun _ => .inl rfl)
        (fun _ => .inr ⟨page, List.mem_cons_self, rfl⟩) destination
    · refine fun files => (ih files).mono fun l e => ?_
      rintro (rfl | ⟨other, hmem, rfl⟩)
      · exact .inl rfl
      · exact .inr ⟨other, List.mem_cons_of_mem _ hmem, rfl⟩

end StaticSite
