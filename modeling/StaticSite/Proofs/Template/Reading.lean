import StaticSite.Proofs.Placeholder.WellFormed
import StaticSite.Proofs.Template.Graph

/-!
# Reading templates depth first

`ReadsAs` reads a row of placeholders: an include is replaced, wherever it stands, by the reading of
the file of its template, and all other placeholders are kept in order. A row has one reading at
most.

Well-formed templates expand to just that. Filling well-formed texts into a well-formed text neither
makes nor breaks a placeholder at a seam, so by induction on the levels of the recursion each text
is well-formed and its placeholders are the reading of its file (`complete_of_plain`).
-/

namespace StaticSite

/-- The reading of a row of placeholders, depth first. -/
inductive ReadsAs (files : FileSystem) (path : Text → Path) :
    List Placeholder → List Placeholder → Prop
  /-- Nothing is left to read. -/
  | nil : ReadsAs files path [] []
  /-- A placeholder that is no include is kept. -/
  | kept {p : Placeholder} {ps qs : List Placeholder} (hp : p.included? = none)
      (h : ReadsAs files path ps qs) : ReadsAs files path (p :: ps) (p :: qs)
  /-- An include is replaced by the reading of its file. -/
  | replaced {p : Placeholder} {name raw : Text} {ps inner qs : List Placeholder}
      (hp : p.included? = some name) (hread : files.readText (path name) = .ok raw)
      (hinner : ReadsAs files path (placeholders raw) inner) (h : ReadsAs files path ps qs) :
      ReadsAs files path (p :: ps) (inner ++ qs)

section ReadsAs

variable {files : FileSystem} {path : Text → Path} {ps qs : List Placeholder}

theorem ReadsAs.unique {others : List Placeholder} (h : ReadsAs files path ps qs)
    (h' : ReadsAs files path ps others) : qs = others := by
  induction h generalizing others with
  | nil =>
    cases h'
    rfl
  | kept hp h ih =>
    cases h' with
    | kept _ h' => rw [ih h']
    | replaced hp' => simp [hp] at hp'
  | replaced hp hread hinner h ihinner ih =>
    cases h' with
    | kept hp' => simp [hp] at hp'
    | replaced hp' hread' hinner' h' =>
      rw [hp] at hp'
      cases hp'
      rw [hread] at hread'
      cases hread'
      rw [ihinner hinner', ih h']

theorem ReadsAs.included?_eq_none (h : ReadsAs files path ps qs) :
    ∀ q ∈ qs, q.included? = none := by
  induction h with
  | nil => simp
  | kept hp h ih =>
    intro q hq
    rcases List.mem_cons.mp hq with rfl | hq
    · exact hp
    · exact ih q hq
  | replaced hp hread hinner h ihinner ih =>
    intro q hq
    rcases List.mem_append.mp hq with hq | hq
    · exact ihinner q hq
    · exact ih q hq

theorem readsAs_flatMap {f : Placeholder → List Placeholder}
    (h : ∀ p ∈ ps, (p.included? = none ∧ f p = [p]) ∨
      ∃ name raw, p.included? = some name ∧ files.readText (path name) = .ok raw ∧
        ReadsAs files path (placeholders raw) (f p)) :
    ReadsAs files path ps (ps.flatMap f) := by
  induction ps with
  | nil => exact .nil
  | cons p ps ih =>
    have hrest := ih fun q hq => h q (List.mem_cons_of_mem _ hq)
    rw [List.flatMap_cons]
    rcases h p (by simp) with ⟨hp, hf⟩ | ⟨name, raw, hp, hread, hinner⟩
    · rw [hf]
      exact .kept hp hrest
    · exact .replaced hp hread hinner hrest

end ReadsAs

section Plain

variable {files : FileSystem} {path : Text → Path} {levels : Nat} {chain : List Text}
  {name text raw : Text}

/-- The text of a template is well-formed, and its placeholders are the reading of its file. -/
structure Complete (files : FileSystem) (path : Text → Path) (name text : Text) : Prop where
  /-- The text is well-formed. -/
  wellFormed : WellFormed text
  /-- Its placeholders are those of the file, each include replaced. -/
  exists_readsAs : ∃ raw, files.readText (path name) = .ok raw ∧
    ReadsAs files path (placeholders raw) (placeholders text)

theorem exists_find?_of_included {texts : Bindings} {f : Text → Option (Except BuildError Text)}
    (hall : plainAll f (includes raw) = some (.ok texts)) {p : Placeholder}
    (hmem : p ∈ placeholders raw) (hp : p.included? = some name) :
    ∃ text, texts.find? name = some text := by
  obtain ⟨rfl, hident⟩ := Placeholder.included?_eq_some_iff.mp hp
  have hincluded : name ∈ includes raw := mem_includes_iff.mpr ⟨hident, hmem⟩
  obtain ⟨text, htext⟩ := exists_of_plainAll_eq_ok hall name hincluded
  exact ⟨text, (find?_of_plainAll_eq_ok hall).mpr ⟨hincluded, htext⟩⟩

/-- A template that has a text is complete if all files that it leads to are well-formed. -/
theorem complete_of_plain
    (hfiles : ∀ reached raw, Relation.ReflTransGen (Includes files path) name reached →
      files.readText (path reached) = .ok raw → WellFormed raw)
    (h : plain files path levels chain name = some (.ok text)) : Complete files path name text := by
  induction levels generalizing chain name text with
  | zero => cases h
  | succ levels ih =>
    obtain ⟨fewer, raw, texts, hlevels, -, hread, hall, htext⟩ := plain_eq_ok h
    cases hlevels
    have hraw := hfiles name raw .refl hread
    -- what is filled in is the text of an included template, which leads to no other files
    have hfound : ∀ included value, texts.find? included = some value →
        Complete files path included value := by
      intro included value hfind
      obtain ⟨hincluded, hvalue⟩ := (find?_of_plainAll_eq_ok hall).mp hfind
      have hedge : Includes files path name included := ⟨raw, hread, hincluded⟩
      refine ih (fun reached raw' hreach => ?_) hvalue
      exact hfiles reached raw' (hreach.head hedge)
    have hvalues : ∀ p value, templateResolver texts p = some value → WellFormed value := by
      intro p value hvalue
      rw [templateResolver_eq] at hvalue
      obtain ⟨included, -, hfind⟩ := Option.bind_eq_some_iff.mp hvalue
      exact (hfound included value hfind).wellFormed
    rw [htext]
    refine ⟨hraw.substitute hvalues, raw, hread, ?_⟩
    rw [hraw.placeholders_substitute hvalues]
    refine readsAs_flatMap fun p hp => ?_
    rw [templateResolver_eq]
    cases hincluded : p.included? with
    | none => exact .inl ⟨rfl, rfl⟩
    | some included =>
      obtain ⟨value, hfind⟩ := exists_find?_of_included hall hp hincluded
      obtain ⟨inner, hinner, hreads⟩ := (hfound included value hfind).exists_readsAs
      refine .inr ⟨included, inner, rfl, hinner, ?_⟩
      rw [Option.bind_some, hfind]
      exact hreads

end Plain

namespace TemplateStore

/-- If all template files that a template leads to are well-formed, the text that a store gives for
it, whatever the store was asked for before, is well-formed and has no include left, and its
placeholders are the one reading of the template's file, depth first. -/
theorem expand_complete (files : FileSystem) (folder : Path) (extension : Text)
    (names : List Text) {name text : Text}
    (hfiles : ∀ reached raw,
      Relation.ReflTransGen (Includes files (path ⟨folder, extension, ∅⟩)) name reached →
        files.readText (path ⟨folder, extension, ∅⟩ reached) = .ok raw → WellFormed raw)
    (hok : ((expand files name).run (after files ⟨folder, extension, ∅⟩ names)).1.result =
      .ok text) :
    WellFormed text ∧
      (∀ included, Placeholder.isIdentifier included = true →
        ¬ '$' :: '{' :: included ++ ['}'] <:+: text) ∧
      ∃ raw, files.readText (path ⟨folder, extension, ∅⟩ name) = .ok raw ∧
        ∀ row, ReadsAs files (path ⟨folder, extension, ∅⟩) (placeholders raw) row ↔
          row = placeholders text := by
  have hsound := (Sound.of_new files folder extension).after names
  obtain ⟨levels, hplain⟩ := (result_expand_eq_iff hsound name _).mp hok
  obtain ⟨hwf, raw, hread, hreads⟩ := complete_of_plain hfiles hplain
  refine ⟨hwf, ?_, raw, hread, fun row => ⟨fun hrow => hrow.unique hreads, ?_⟩⟩
  · intro included hident hinfix
    have hbody := isBody_of_isIdentifier hident
    have hmem : (⟨.template, included⟩ : Placeholder) ∈ placeholders text :=
      mem_placeholders_iff.mpr ⟨hbody, hinfix⟩
    have hnone := hreads.included?_eq_none _ hmem
    rw [Placeholder.included?_eq_some_iff.mpr ⟨rfl, hident⟩] at hnone
    cases hnone
  · rintro rfl
    exact hreads

/-- A template that includes another one twice, which has an include that is no identifier. -/
theorem expand_complete_shared :
    let folder := "t".toList
    let outer := "<$\x7bb\x7d@\x7bx\x7d$\x7bb\x7d>".toList
    let inner := "#\x7bpost-title\x7d$\x7bc d\x7d".toList
    let files := ((FileSystem.empty.put [folder] .directory).put [folder, "a.html".toList]
        (.file (Text.encode outer))).put [folder, "b.html".toList] (.file (Text.encode inner))
    let path := path ⟨folder, "html".toList, ∅⟩
    let text := "<#\x7bpost-title\x7d$\x7bc d\x7d@\x7bx\x7d#\x7bpost-title\x7d$\x7bc d\x7d>".toList
    let title : Placeholder := ⟨.post, "post-title".toList⟩
    let other : Placeholder := ⟨.template, "c d".toList⟩
    (∀ name raw, files.readText (path name) = .ok raw → WellFormed raw) ∧
      ((expand files "a".toList).run ⟨folder, "html".toList, ∅⟩).1.result = .ok text ∧
      ReadsAs files path (placeholders outer)
        [title, other, ⟨.value, "x".toList⟩, title, other] := by
  intro folder outer inner files path text title other
  have hvalues : files.entries.values =
      [.directory, .file (Text.encode outer), .file (Text.encode inner)] := by rfl
  have hfiles : ∀ name raw, files.readText (path name) = .ok raw → WellFormed raw := by
    intro name raw hread
    obtain ⟨content, hmem, hdecode⟩ := FileSystem.mem_values_of_readText hread
    rw [hvalues] at hmem
    have hcontent : content = Text.encode outer ∨ content = Text.encode inner := by
      simpa using hmem
    rcases hcontent with rfl | rfl
    · rw [Text.decode?_encode] at hdecode
      cases hdecode
      decide
    · rw [Text.decode?_encode] at hdecode
      cases hdecode
      decide
  have hok : ((expand files "a".toList).run ⟨folder, "html".toList, ∅⟩).1.result = .ok text := by
    decide +kernel
  have houter : files.readText (path "a".toList) = .ok outer := by decide +kernel
  obtain ⟨-, -, raw, hread, hrow⟩ :=
    expand_complete files folder "html".toList [] (fun reached raw _ => hfiles reached raw) hok
  cases houter.symm.trans hread
  exact ⟨hfiles, hok, (hrow _).mpr (by decide)⟩

end TemplateStore

end StaticSite
