import Mathlib.Data.List.Nodup
import Mathlib.Data.List.Perm.Subperm
import Mathlib.Logic.Relation
import StaticSite.Proofs.Placeholder.Scan
import StaticSite.Template.Store

/-!
# How many templates can be open

The templates that are open while another one is asked for form a chain: each one includes the next.
Without repetitions such a chain is bounded by the number of all names that any file includes, and
so by the size of the files (`Opens.length_le`). The depth that a store allows is never used up.
-/

namespace StaticSite

/-! ## Files with includes -/

namespace FileSystem

theorem entryAt?_of_walk {files : FileSystem} {place found : Location} {parts : List Text}
    {entry : FileEntry} (h : files.walk place parts = .ok (.found found entry)) :
    files.entryAt? found = some entry := by
  induction parts generalizing place with
  | nil =>
    rw [walk] at h
    split at h
    · next e he =>
      cases h
      exact he
    · cases h
  | cons part rest ih =>
    rw [walk] at h
    split at h
    · cases h
    · cases h
    · split at h
      · exact ih h
      · split at h
        · exact ih h
        · split at h
          · exact ih h
          · split at h <;> cases h

theorem follow_of_resolve {files : FileSystem} {p : Path} {place : Location} {entry : FileEntry}
    (h : files.resolve p = .ok (.found place entry)) :
    files.follow p = .ok (.found place entry) := by
  unfold resolve at h
  split at h
  · next hfollow =>
    split at h
    · cases h
    · cases h
      exact hfollow
  · exact h

theorem resolve_of_readBytes {files : FileSystem} {p : Path} {content : ByteArray}
    (h : files.readBytes p = .ok content) :
    ∃ place, files.resolve p = .ok (.found place (.file content)) := by
  unfold readBytes find at h
  cases hresolve : files.resolve p with
  | error e =>
    rw [hresolve] at h
    cases h
  | ok destination =>
    rw [hresolve] at h
    cases destination with
    | free folder name => cases h
    | found place entry =>
      cases entry with
      | directory => cases h
      | file content' =>
        cases h
        exact ⟨place, rfl⟩

/-- A file that can be read is one of the files. -/
theorem mem_values_of_readText {files : FileSystem} {p : Path} {t : Text}
    (h : files.readText p = .ok t) :
    ∃ content, FileEntry.file content ∈ files.entries.values ∧ Text.decode? content = some t := by
  unfold readText at h
  cases hbytes : files.readBytes p with
  | error e =>
    rw [hbytes] at h
    cases h
  | ok content =>
    rw [hbytes] at h
    cases hdecode : Text.decode? content with
    | none =>
      simp only [hdecode] at h
      cases h
    | some t' =>
      simp only [hdecode] at h
      cases h
      obtain ⟨place, hresolve⟩ := resolve_of_readBytes hbytes
      have hfollow := follow_of_resolve hresolve
      unfold follow at hfollow
      split at hfollow
      · cases hfollow
      · split at hfollow
        · cases hfollow
        · have hentry := entryAt?_of_walk hfollow
          unfold entryAt? at hentry
          split at hentry
          · cases hentry
          · have hmem := Dictionary.mem_entries_of_find? hentry
            exact ⟨content, List.mem_map.mpr ⟨_, hmem, rfl⟩, hdecode⟩

end FileSystem

/-! ## Names that are included -/

theorem length_scanFrom_le (offset : Nat) (t : Text) : (scanFrom offset t).length ≤ t.length := by
  induction t generalizing offset with
  | nil => exact Nat.le_refl 0
  | cons c t ih =>
    have hrest := ih (offset + c.utf8Size)
    cases hp : Placeholder.atStart? (c :: t) with
    | none =>
      rw [scanFrom_cons_none hp, List.length_cons]
      omega
    | some found =>
      rw [scanFrom_cons_some hp, List.length_cons, List.length_cons]
      omega

theorem mem_distinct_iff {t : Text} {ts : List Text} : t ∈ distinct ts ↔ t ∈ ts := by
  induction ts with
  | nil => simp [distinct]
  | cons u ts ih =>
    rw [distinct, List.mem_cons, List.mem_cons, List.mem_filter, ih]
    by_cases h : t = u
    · simp [h]
    · simp [h]

/-- A text includes the identifiers of its `$` placeholders. -/
theorem mem_includes_iff {t name : Text} :
    name ∈ includes t ↔ Placeholder.isIdentifier name = true ∧
      (⟨.template, name⟩ : Placeholder) ∈ placeholders t := by
  rw [includes, mem_distinct_iff, List.mem_filterMap]
  constructor
  · rintro ⟨o, ho, hname⟩
    obtain ⟨⟨sigil, body⟩, start⟩ := o
    by_cases hsigil : sigil = .template
    · subst hsigil
      simp only [Placeholder.identifier?, if_true] at hname
      split at hname
      · next hident =>
        cases hname
        exact ⟨hident, List.mem_map_of_mem ho⟩
      · cases hname
    · simp [hsigil] at hname
  · rintro ⟨hident, hmem⟩
    obtain ⟨o, ho, hplaceholder⟩ := List.mem_map.mp hmem
    refine ⟨o, ho, ?_⟩
    simp [hplaceholder, Placeholder.identifier?, hident]

theorem length_distinct_le (ts : List Text) : (distinct ts).length ≤ ts.length := by
  induction ts with
  | nil => exact Nat.le_refl 0
  | cons t ts ih =>
    have hfilter := List.length_filter_le (fun u => u != t) (distinct ts)
    rw [distinct, List.length_cons, List.length_cons]
    omega

theorem length_includes_le (t : Text) : (includes t).length ≤ Text.utf8Size t := by
  have hdistinct := length_distinct_le ((scan t).filterMap fun o =>
    if o.placeholder.sigil = .template then o.placeholder.identifier? else none)
  have hfilter := List.length_filterMap_le (fun o : Occurrence =>
    if o.placeholder.sigil = .template then o.placeholder.identifier? else none) (scan t)
  have hscan := length_scanFrom_le 0 t
  have hsize := Text.length_le_utf8Size t
  rw [← scan_eq] at hscan
  unfold includes
  omega

/-- The templates that a file includes. -/
def FileEntry.includes : FileEntry → List Text
  | .file content => ((Text.decode? content).map StaticSite.includes).getD []
  | .directory => []

/-- The templates that any file includes. -/
def FileSystem.included (files : FileSystem) : List Text :=
  files.entries.values.flatMap FileEntry.includes

theorem FileEntry.length_includes_le (content : ByteArray) :
    (FileEntry.includes (.file content)).length ≤ content.size := by
  rw [FileEntry.includes]
  cases hdecode : Text.decode? content with
  | none => exact Nat.zero_le _
  | some t =>
    have hsize := Text.size_encode t
    rw [Text.encode_of_decode? hdecode] at hsize
    rw [hsize]
    exact StaticSite.length_includes_le t

theorem FileSystem.length_included_le (files : FileSystem) :
    files.included.length ≤ files.totalSize := by
  unfold included totalSize
  induction files.entries.values with
  | nil => exact Nat.le_refl 0
  | cons e es ih =>
    rw [List.flatMap_cons, List.length_append, List.foldr_cons]
    cases e with
    | directory =>
      rw [FileEntry.includes, List.length_nil, Nat.zero_add]
      exact ih
    | file content => exact Nat.add_le_add (FileEntry.length_includes_le content) ih

/-! ## Open templates -/

/-- One template includes another. -/
def Includes (files : FileSystem) (path : Text → Path) (name included : Text) : Prop :=
  ∃ raw, files.readText (path name) = .ok raw ∧ included ∈ includes raw

/-- The templates of `chain` can be open when `name` is asked for: each includes the next one, none
is open twice. -/
inductive Opens (files : FileSystem) (path : Text → Path) : List Text → Text → Prop
  /-- No template is open. -/
  | start (name : Text) : Opens files path [] name
  /-- A template is opened and asks for one that it includes. -/
  | next {chain : List Text} {name included : Text} (h : Opens files path chain name)
      (hnew : name ∉ chain) (hincludes : Includes files path name included) :
      Opens files path (chain ++ [name]) included

variable {files : FileSystem} {path : Text → Path} {chain : List Text} {name : Text}

theorem mem_included_of_includes {included : Text} (h : Includes files path name included) :
    included ∈ files.included := by
  obtain ⟨raw, hread, hmem⟩ := h
  obtain ⟨content, hcontent, hdecode⟩ := FileSystem.mem_values_of_readText hread
  refine List.mem_flatMap.mpr ⟨.file content, hcontent, ?_⟩
  rw [FileEntry.includes, hdecode]
  exact hmem

/-- Each open template leads to the one that is asked for. -/
theorem Opens.transGen (h : Opens files path chain name) :
    ∀ opened ∈ chain, Relation.TransGen (Includes files path) opened name := by
  induction h with
  | start name => exact fun _ hmem => absurd hmem List.not_mem_nil
  | next h hnew hincludes ih =>
    intro opened hmem
    rcases List.mem_append.mp hmem with hmem | hmem
    · exact (ih opened hmem).tail hincludes
    · rw [List.mem_singleton.mp hmem]
      exact .single hincludes

theorem Opens.nodup (h : Opens files path chain name) (hnew : name ∉ chain) :
    (chain ++ [name]).Nodup := by
  induction h with
  | start name => exact List.nodup_singleton name
  | next h hnew' hincludes ih =>
    rw [List.nodup_append]
    refine ⟨ih hnew', List.nodup_singleton _, fun a ha b hb heq => ?_⟩
    rw [List.mem_singleton.mp hb] at heq
    exact hnew (heq ▸ ha)

theorem Opens.tail_subset (h : Opens files path chain name) :
    (chain ++ [name]).tail ⊆ files.included := by
  induction h with
  | start name => exact List.nil_subset _
  | @next chain name included h hnew hincludes ih =>
    have hne : chain ++ [name] ≠ [] := by simp
    rw [List.tail_append_of_ne_nil hne]
    refine List.append_subset.mpr ⟨ih, ?_⟩
    exact List.cons_subset.mpr ⟨mem_included_of_includes hincludes, List.nil_subset _⟩

/-- All open templates but the first one are included by some file. -/
theorem Opens.length_le (h : Opens files path chain name) (hnew : name ∉ chain) :
    chain.length ≤ files.totalSize := by
  have hnodup := (h.nodup hnew).sublist (List.tail_sublist _)
  have hle := (List.subperm_of_subset hnodup h.tail_subset).length_le
  have htotal := files.length_included_le
  rw [List.length_tail, List.length_append, List.length_singleton] at hle
  omega

end StaticSite
