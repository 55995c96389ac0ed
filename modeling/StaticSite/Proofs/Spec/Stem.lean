import StaticSite.Proofs.Site.Load
import StaticSite.Proofs.Spec.Acceptance

/-!
# The files of a page

A content entry names a file of content, and with it the preview and the line of the same name. A
section may have several content entries. The content is then that of the last one, but a preview
that is missing does not clear the one before, nor does a line: so the texts of a page may come from
files of different names (`parsePages_fromLastStem_iff`).
-/

namespace StaticSite.Spec

/-- The texts of a page that are read from files are those of the name that is given last; previews
and lines that cannot be read are empty. -/
def FromLastStem (source : ContentSource) (stems : List Text) (page : Page) : Prop :=
  match stems.getLast? with
  | none => page.content = [] ∧ page.preview = [] ∧ page.line = []
  | some stem =>
    source.content stem = .ok page.content ∧
      page.preview = (source.preview stem).toOption.getD [] ∧
      page.line = (source.line stem).toOption.getD []

/-- The file of the name that is given last cannot be read, but one that is named before has a
text. -/
def LeavesEarlier (read : Text → Except FileError Text) (stems : List Text) : Prop :=
  ∃ earlier stem cause, stems = earlier ++ [stem] ∧ read stem = .error cause ∧
    lastRead read earlier ≠ []

section LastStem

variable {source : ContentSource} {read : Text → Except FileError Text} {earlier : List Text}
  {stem : Text} {fields defined : List (Text × Text)} {page : Page}

theorem not_leavesEarlier_nil : ¬ LeavesEarlier read [] := by
  rintro ⟨earlier, stem, cause, h, -⟩
  simp at h

theorem lastRead_concat_eq_iff : lastRead read (earlier ++ [stem]) = (read stem).toOption.getD [] ↔
    ¬ LeavesEarlier read (earlier ++ [stem]) := by
  rw [lastRead_concat]
  cases hread : read stem with
  | ok text =>
    refine iff_of_true rfl ?_
    rintro ⟨earlier', stem', cause, hstems, hfail, -⟩
    obtain ⟨-, hstem⟩ := List.append_inj' hstems rfl
    rw [(List.cons.inj hstem).1, hfail] at hread
    cases hread
  | error cause =>
    constructor
    · rintro hempty ⟨earlier', stem', cause', hstems, -, htext⟩
      obtain ⟨rfl, -⟩ := List.append_inj' hstems rfl
      exact htext hempty
    · intro hnot
      by_contra htext
      exact hnot ⟨earlier, stem, cause, rfl, hread, htext⟩

theorem Records.fromLastStem_iff (h : Records source fields defined page) :
    FromLastStem source (stems fields) page ↔
      ¬ LeavesEarlier source.preview (stems fields) ∧
        ¬ LeavesEarlier source.line (stems fields) := by
  have hcontent := h.read_eq source.content page.content (by simp [ContentSource.readings])
  have hpreview := h.read_eq source.preview page.preview (by simp [ContentSource.readings])
  have hline := h.read_eq source.line page.line (by simp [ContentSource.readings])
  have hreadable := h.exists_content
  generalize stems fields = named at hcontent hpreview hline hreadable ⊢
  unfold FromLastStem
  rcases List.eq_nil_or_concat named with rfl | ⟨earlier, stem, rfl⟩
  · exact iff_of_true ⟨hcontent, hpreview, hline⟩ ⟨not_leavesEarlier_nil, not_leavesEarlier_nil⟩
  · rw [List.concat_eq_append] at hcontent hpreview hline hreadable ⊢
    obtain ⟨content, hread⟩ := hreadable stem (by simp)
    rw [lastRead_concat, hread] at hcontent
    rw [List.getLast?_concat, ← lastRead_concat_eq_iff, ← lastRead_concat_eq_iff, ← hpreview,
      ← hline]
    refine and_iff_right ?_
    rw [hread, hcontent]
    rfl

end LastStem

/-- Once a page file is read, the content, the preview and the line of each page are those of the
last files that can be read among the names in its last section, each on its own. They belong to
the name that is given last, unless the preview or the line of that name is missing and an earlier
name has one. -/
theorem parsePages_fromLastStem_iff (source : ContentSource) (content : ByteArray)
    {pages : PageSet} {name : Text} {page : Page}
    (hpages : (parsePages source (linesOfBytes content)).result = .ok pages)
    (hpage : pages.find? name = some page) :
    (∃ since, IsLastSection (linesOfBytes content) name since) ∧
      ∀ since, IsLastSection (linesOfBytes content) name since →
        (∀ read text, (read, text) ∈ source.readings page →
          text = lastRead read (stems (fieldEntries since))) ∧
          (FromLastStem source (stems (fieldEntries since)) page ↔
            ¬ LeavesEarlier source.preview (stems (fieldEntries since)) ∧
              ¬ LeavesEarlier source.line (stems (fieldEntries since))) := by
  obtain ⟨-, hall⟩ := holdsAll_of_parsePages hpages
  constructor
  · have hcontains : pages.contains name = true := by
      unfold Dictionary.contains
      rw [hpage]
      rfl
    exact exists_isLastSection ((hall.contains_iff name).mp hcontains)
  · intro since hlast
    obtain ⟨page', hpage', hdescribes⟩ := hall.describes name since hlast
    rw [hpage] at hpage'
    cases hpage'
    exact ⟨hdescribes.read_eq, hdescribes.fromLastStem_iff⟩

/-! ## A page with two content entries -/

/-- The page file of a page whose content is `a.md`, and then `b.md`. -/
def twoContents : ByteArray :=
  Text.encode "[p]\ncontent: a.md\ncontent: b.md\n".toList

/-- The contents of both names, and some previews. -/
def twoContentsSource (previews : List (String × String)) : ContentSource :=
  let folders := ["src", "src/content", "src/preview"]
  let texts := [("src/content/a.md", "A"), ("src/content/b.md", "B")] ++ previews
  let place (p : String) := Text.splitOnChar '/' p.toList
  let files := folders.foldl (fun files p => files.put (place p) .directory) FileSystem.empty
  let files := texts.foldl (fun files e => files.put (place e.1) (.file (Text.encode e.2.toList)))
    files
  .ofLayout files "src".toList {} id

theorem isLastSection_twoContents : IsLastSection (linesOfBytes twoContents) ['p']
    [some "content: a.md".toList, some "content: b.md".toList] := by
  refine InSection.isLastSection ⟨⟨[], by decide +kernel⟩, fun other hmem => ?_⟩
  simp [header] at hmem

/-- Both names have a preview. -/
theorem parsePages_fromLastStem_both :
    let source := twoContentsSource [("src/preview/a.md", "PA"), ("src/preview/b.md", "PB")]
    let page : Page := { content := "B".toList, preview := "PB".toList }
    let pages : PageSet := (∅ : PageSet).insert ['p'] page
    (parsePages source (linesOfBytes twoContents)).result = .ok pages ∧
      pages.find? ['p'] = some page ∧ FromLastStem source ["a.md".toList, "b.md".toList] page := by
  intro source page pages
  have hpages : (parsePages source (linesOfBytes twoContents)).result = .ok pages :=
    Site.eq_ok_of_toOption (by decide +kernel)
  have hpage : pages.find? ['p'] = some page := by decide +kernel
  obtain ⟨-, htexts⟩ := parsePages_fromLastStem_iff source twoContents hpages hpage
  obtain ⟨-, hiff⟩ := htexts _ isLastSection_twoContents
  have hpreview : lastRead source.preview (["a.md".toList] ++ ["b.md".toList]) =
      (source.preview "b.md".toList).toOption.getD [] := by decide +kernel
  have hline : lastRead source.line (["a.md".toList] ++ ["b.md".toList]) =
      (source.line "b.md".toList).toOption.getD [] := by decide +kernel
  refine ⟨hpages, hpage, hiff.mpr ⟨?_, ?_⟩⟩
  · exact lastRead_concat_eq_iff.mp hpreview
  · exact lastRead_concat_eq_iff.mp hline

/-- The texts of each page come from the name that is given last. -/
def AllFromLastStem (source : ContentSource) (lines : List Line) : Prop :=
  ∀ pages name page since, (parsePages source lines).result = .ok pages →
    pages.find? name = some page → IsLastSection lines name since →
    FromLastStem source (stems (fieldEntries since)) page

/-- The last name has no preview, and the page keeps that of the name before. -/
theorem not_allFromLastStem_missing_preview :
    let source := twoContentsSource [("src/preview/a.md", "PA")]
    ¬ AllFromLastStem source (linesOfBytes twoContents) := by
  intro source hall
  have hpages : (parsePages source (linesOfBytes twoContents)).result =
      .ok ((∅ : PageSet).insert ['p'] { content := "B".toList, preview := "PA".toList }) :=
    Site.eq_ok_of_toOption (by decide +kernel)
  obtain ⟨-, hpreview, -⟩ := hall _ _ _ _ hpages rfl isLastSection_twoContents
  exact absurd hpreview (by decide +kernel)

end StaticSite.Spec
