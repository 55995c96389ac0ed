import StaticSite.Proofs.Spec.Entry
import StaticSite.Spec.Globals

/-!
# Global variables with and without their values for production

Whether a build is for production does not decide which lines are refused, nor which variables there
are: two readers that differ in that stay `Alike` line by line. It decides which entries give a
value to a variable (`GivesTo`), and a variable has the value that was given to it last.
-/

namespace StaticSite.Spec

/-- The last variable that entries define. -/
def currentVariable? (entries : List (Text × Text)) : Option Text :=
  ((entries.map Prod.fst).filter (· ≠ productionKey)).getLast?

/-- An entry that stands behind others gives its value to a variable: to the one that it defines, or
for production, if it is an entry for production, to the last one that was defined before it. -/
def GivesTo (production : Bool) (before : List (Text × Text)) (key v : Text) : Prop :=
  key ≠ productionKey ∧ key = v ∨
    key = productionKey ∧ production = true ∧ currentVariable? before = some v

/-- The last value that entries give to a variable. -/
def LastGiven (production : Bool) (entries : List (Text × Text)) (v x : Text) : Prop :=
  ∃ before key after, entries = before ++ (key, x) :: after ∧ GivesTo production before key v ∧
    ∀ between k y rest, after = between ++ (k, y) :: rest →
      ¬ GivesTo production (before ++ (key, x) :: between) k v

/-! ## One more entry -/

section Entries

variable {production : Bool} {entries : List (Text × Text)} {v x : Text}

theorem currentVariable?_concat (entries : List (Text × Text)) (k y : Text) :
    currentVariable? (entries ++ [(k, y)]) =
      if k = productionKey then currentVariable? entries else some k := by
  unfold currentVariable?
  rw [List.map_append, List.filter_append]
  by_cases h : k = productionKey
  · simp [h]
  · simp [h]

theorem not_lastGiven_nil : ¬ LastGiven production [] v x := by
  rintro ⟨before, key, after, h, -⟩
  simp at h

theorem lastGiven_concat_iff (k y : Text) :
    LastGiven production (entries ++ [(k, y)]) v x ↔
      GivesTo production entries k v ∧ x = y ∨
        ¬ GivesTo production entries k v ∧ LastGiven production entries v x := by
  constructor
  · rintro ⟨before, key, after, hentries, hgives, hlast⟩
    rcases append_singleton_eq_append_cons hentries with ⟨rfl, rfl, hkey⟩ | ⟨rest, rfl, rfl⟩
    · cases hkey
      exact .inl ⟨hgives, rfl⟩
    · refine .inr ⟨hlast rest k y [] rfl, before, key, rest, rfl, hgives, ?_⟩
      intro between k' y' later hrest
      refine hlast between k' y' (later ++ [(k, y)]) ?_
      rw [hrest]
      simp
  · rintro (⟨hgives, rfl⟩ | ⟨hnot, before, key, after, rfl, hgives, hlast⟩)
    · exact ⟨entries, k, [], rfl, hgives, by simp⟩
    · refine ⟨before, key, after ++ [(k, y)], by simp, hgives, ?_⟩
      intro between k' y' later hafter
      rcases append_singleton_eq_append_cons hafter with ⟨-, rfl, hkey⟩ | ⟨rest, -, hrest⟩
      · cases hkey
        exact hnot
      · exact hlast between k' y' rest hrest

/-- Without production, a variable has the value of the last entry that defines it. -/
theorem lastGiven_false_iff :
    LastGiven false entries v x ↔ v ≠ productionKey ∧ lastValue? v entries = some x := by
  induction entries using List.reverseRecOn with
  | nil => simp [not_lastGiven_nil]
  | append_singleton entries e ih =>
    obtain ⟨k, y⟩ := e
    rw [lastGiven_concat_iff, ih, lastValue?_concat]
    by_cases hk : k = v
    · subst hk
      by_cases hv : k = productionKey <;> simp [GivesTo, hv, eq_comm]
    · simp [GivesTo, hk]

end Entries

namespace GlobalsState

/-! ## One line -/

/-- The variables once an entry is taken in. -/
def withEntry (production : Bool) (key value : Text) (s : GlobalsState) : GlobalsState :=
  if key ≠ productionKey then ⟨s.globals.insert key value, some key⟩
  else
    match production, s.current with
    | true, some current => { s with globals := s.globals.insert current value }
    | _, _ => s

/-- The entry that a line adds, if any, or why it is refused. Neither depends on what was read
before. -/
def entryOfLine (number : Nat) (line : Line) : Except BuildError (Option (Text × Text)) :=
  match line with
  | none => .error (.malformedLine number none)
  | some text => if text.isEmpty then .ok none else (entry number text).map some

variable {production : Bool} {number : Nat} {line : Line} {lines : List Line}
  {entries : List (Text × Text)} {s t next : GlobalsState}

theorem result_readLine : (readLine production number line s).result =
    (entryOfLine number line).map fun e? =>
      match e? with
      | none => s
      | some (key, value) => s.withEntry production key value := by
  unfold readLine entryOfLine
  cases line with
  | none => rfl
  | some text =>
    by_cases hempty : text.isEmpty = true
    · simp only [if_pos hempty]
      rfl
    · simp only [if_neg hempty]
      cases entry number text with
      | error e => rfl
      | ok found =>
        obtain ⟨key, value⟩ := found
        by_cases hkey : key = productionKey
        · cases production <;> cases hcurrent : s.current <;>
            simp [Except.map, withEntry, hkey, hcurrent, Outcome.ok]
        · simp [Except.map, withEntry, hkey, Outcome.ok]

theorem keyValue?_of_entryOfLine {e? : Option (Text × Text)}
    (h : entryOfLine number line = .ok e?) : line.keyValue? = e? := by
  unfold entryOfLine at h
  cases line with
  | none => cases h
  | some text =>
    by_cases hempty : text.isEmpty = true
    · simp only [if_pos hempty] at h
      cases h
      rw [List.isEmpty_iff.mp hempty]
      rfl
    · simp only [if_neg hempty] at h
      cases hentry : entry number text with
      | error e =>
        rw [hentry] at h
        cases h
      | ok found =>
        rw [hentry] at h
        cases h
        exact Line.keyValue?_of_isEntry (entry_eq_ok_iff.mp hentry)

/-! ## The values -/

/-- What is known once some entries are read. -/
structure Reached (production : Bool) (entries : List (Text × Text)) (s : GlobalsState) :
    Prop where
  /-- The last variable that an entry defined. -/
  current_eq : s.current = currentVariable? entries
  /-- The variables have the values that were given to them last. -/
  find?_eq_some_iff : ∀ v x, s.globals.find? v = some x ↔ LastGiven production entries v x

theorem Reached.of_new : Reached production [] {} where
  current_eq := rfl
  find?_eq_some_iff v x := by
    refine iff_of_false ?_ not_lastGiven_nil
    intro h
    cases h

theorem Reached.insert_iff (h : Reached production entries s) {k y given : Text}
    (hgives : ∀ v, GivesTo production entries k v ↔ given = v) (v x : Text) :
    (s.globals.insert given y).find? v = some x ↔
      LastGiven production (entries ++ [(k, y)]) v x := by
  rw [Dictionary.find?_insert, lastGiven_concat_iff, hgives]
  by_cases hv : given = v
  · simp [hv, eq_comm]
  · simp [hv, h.find?_eq_some_iff]

theorem Reached.skip_iff (h : Reached production entries s) {k y : Text}
    (hgives : ∀ v, ¬ GivesTo production entries k v) (v x : Text) :
    s.globals.find? v = some x ↔ LastGiven production (entries ++ [(k, y)]) v x := by
  rw [lastGiven_concat_iff, h.find?_eq_some_iff]
  simp [hgives]

/-- The step lemma. -/
theorem Reached.withEntry (h : Reached production entries s) (key value : Text) :
    Reached production (entries ++ [(key, value)]) (s.withEntry production key value) := by
  have hcurrent := currentVariable?_concat entries key value
  unfold GlobalsState.withEntry
  by_cases hkey : key = productionKey
  · rw [if_pos hkey, ← h.current_eq] at hcurrent
    rw [if_neg (not_not.mpr hkey)]
    cases hproduction : production with
    | false =>
      subst hproduction
      exact ⟨hcurrent.symm, h.skip_iff fun v => by simp [GivesTo, hkey]⟩
    | true =>
      subst hproduction
      cases hs : s.current with
      | none =>
        refine ⟨hcurrent.symm, h.skip_iff fun v => ?_⟩
        simp [GivesTo, hkey, ← h.current_eq, hs]
      | some current =>
        rw [hs] at hcurrent
        refine ⟨hcurrent.symm, h.insert_iff fun v => ?_⟩
        simp [GivesTo, hkey, ← h.current_eq, hs]
  · rw [if_neg hkey] at hcurrent
    rw [if_pos hkey]
    exact ⟨hcurrent.symm, h.insert_iff fun v => by simp [GivesTo, hkey]⟩

/-- The run lemma. -/
theorem Reached.readLines (h : Reached production entries s)
    (hread : (readLines production number lines s).result = .ok next) :
    Reached production (entries ++ lines.filterMap Line.keyValue?) next := by
  induction lines generalizing number entries s with
  | nil =>
    cases hread
    rw [List.filterMap_nil, List.append_nil]
    exact h
  | cons line lines ih =>
    obtain ⟨middle, hline, hlines⟩ := Outcome.result_andThen_eq_ok_iff.mp hread
    rw [result_readLine] at hline
    cases he : entryOfLine number line with
    | error e =>
      rw [he] at hline
      cases hline
    | ok e? =>
      rw [he] at hline
      rw [List.filterMap_cons, keyValue?_of_entryOfLine he]
      cases e? with
      | none =>
        cases hline
        exact ih h hlines
      | some e =>
        cases hline
        rw [List.append_cons]
        exact ih (h.withEntry e.1 e.2) hlines

/-! ## Two readers -/

/-- Two readers have defined the same variables, the same one last, and none that is named like the
entries for production. -/
structure Alike (s t : GlobalsState) : Prop where
  /-- They are at the same variable. -/
  current_eq : s.current = t.current
  /-- They know the same variables. -/
  contains_eq : ∀ v, s.globals.contains v = t.globals.contains v
  /-- The variable that they are at is among them. -/
  contains_current : ∀ v, s.current = some v → s.globals.contains v = true
  /-- The key of entries for production is not. -/
  not_contains : s.globals.contains productionKey = false

theorem Alike.of_new : Alike {} {} where
  current_eq := rfl
  contains_eq _ := rfl
  contains_current _ h := by cases h
  not_contains := rfl

/-- A value for production is given to a variable that there is already. -/
theorem contains_withEntry_production (production : Bool)
    (h : ∀ v, s.current = some v → s.globals.contains v = true) (value v : Text) :
    (s.withEntry production productionKey value).globals.contains v = s.globals.contains v := by
  unfold withEntry
  rw [if_neg (not_not.mpr rfl)]
  cases production with
  | false => rfl
  | true =>
    cases hs : s.current with
    | none => rfl
    | some current =>
      show (s.globals.insert current value).contains v = _
      rw [Dictionary.contains_insert]
      by_cases hv : current = v
      · rw [← hv, h current hs]
        simp
      · simp [hv]

theorem current_withEntry_production (value : Text) :
    (s.withEntry production productionKey value).current = s.current := by
  unfold withEntry
  rw [if_neg (not_not.mpr rfl)]
  cases production with
  | false => rfl
  | true => cases hs : s.current <;> simp [hs]

theorem Alike.contains_current_right (h : Alike s t) (v : Text) (hv : t.current = some v) :
    t.globals.contains v = true := by
  rw [← h.contains_eq]
  exact h.contains_current v (h.current_eq.trans hv)

/-- The step lemma: it does not matter which of the readers reads for production. -/
theorem Alike.withEntry (h : Alike s t) (production production' : Bool) (key value : Text) :
    Alike (s.withEntry production key value) (t.withEntry production' key value) := by
  by_cases hkey : key = productionKey
  · subst hkey
    have hs := contains_withEntry_production production h.contains_current value
    have ht := contains_withEntry_production production' h.contains_current_right value
    refine ⟨?_, fun v => ?_, fun v hv => ?_, ?_⟩
    · rw [current_withEntry_production, current_withEntry_production]
      exact h.current_eq
    · rw [hs, ht]
      exact h.contains_eq v
    · rw [current_withEntry_production] at hv
      rw [hs]
      exact h.contains_current v hv
    · rw [hs]
      exact h.not_contains
  · unfold GlobalsState.withEntry
    rw [if_pos hkey, if_pos hkey]
    refine ⟨rfl, fun v => ?_, fun v hv => ?_, ?_⟩
    · rw [Dictionary.contains_insert, Dictionary.contains_insert, h.contains_eq]
    · cases hv
      rw [Dictionary.contains_insert]
      simp
    · rw [Dictionary.contains_insert, h.not_contains]
      simp [hkey]

/-- The run lemma: the two readers refuse the same line, or both come to the end. -/
theorem Alike.readLines (h : Alike s t) (production production' : Bool) (number : Nat)
    (lines : List Line) :
    (∃ e, (readLines production number lines s).result = .error e ∧
        (GlobalsState.readLines production' number lines t).result = .error e) ∨
      ∃ s' t', (GlobalsState.readLines production number lines s).result = .ok s' ∧
        (GlobalsState.readLines production' number lines t).result = .ok t' ∧ Alike s' t' := by
  induction lines generalizing number s t with
  | nil => exact .inr ⟨s, t, rfl, rfl, h⟩
  | cons line lines ih =>
    rw [GlobalsState.readLines, GlobalsState.readLines, Outcome.result_andThen,
      Outcome.result_andThen, result_readLine, result_readLine]
    cases entryOfLine number line with
    | error e => exact .inl ⟨e, rfl, rfl⟩
    | ok e? =>
      cases e? with
      | none => exact ih h (number + 1)
      | some e => exact ih (h.withEntry production production' e.1 e.2) (number + 1)

/-! ## Entries before any variable -/

theorem readLines_append (before after : List Line) :
    (readLines production number (before ++ after) s).result =
      (readLines production number before s).result.bind fun middle =>
        (readLines production (number + before.length) after middle).result :=
  result_run_append (readLine production) (readLines production) (fun _ _ => rfl)
    (fun _ _ _ _ => rfl) number before after s

/-- Entries for production change nothing as long as there is no variable. -/
theorem eq_of_forall_production (hs : s.current = none)
    (hlines : ∀ e ∈ lines.filterMap Line.keyValue?, e.1 = productionKey)
    (hread : (readLines production number lines s).result = .ok next) : next = s := by
  induction lines generalizing number with
  | nil =>
    cases hread
    rfl
  | cons line lines ih =>
    obtain ⟨middle, hline, hrest⟩ := Outcome.result_andThen_eq_ok_iff.mp hread
    rw [result_readLine] at hline
    cases he : entryOfLine number line with
    | error e =>
      rw [he] at hline
      cases hline
    | ok e? =>
      rw [List.filterMap_cons, keyValue?_of_entryOfLine he] at hlines
      rw [he] at hline
      cases e? with
      | none =>
        cases hline
        exact ih hlines hrest
      | some e =>
        obtain ⟨key, value⟩ := e
        have hkey : key = productionKey := hlines _ List.mem_cons_self
        have hsame : s.withEntry production key value = s := by
          unfold withEntry
          rw [if_neg (not_not.mpr hkey), hs]
          cases production <;> rfl
        cases hline
        change (readLines production (number + 1) lines
          (s.withEntry production key value)).result = _ at hrest
        rw [hsame] at hrest
        exact ih (fun e he => hlines e (List.mem_cons_of_mem _ he)) hrest

theorem entryOfLine_number (other : Nat) {e? : Option (Text × Text)}
    (h : entryOfLine number line = .ok e?) : entryOfLine other line = .ok e? := by
  unfold entryOfLine at h ⊢
  cases line with
  | none => cases h
  | some text =>
    by_cases hempty : text.isEmpty = true
    · simpa only [if_pos hempty] using h
    · simp only [if_neg hempty] at h ⊢
      cases hentry : entry number text with
      | error e =>
        rw [hentry] at h
        cases h
      | ok found =>
        have hsame : entry other text = .ok found := entry_eq_ok_iff.mpr (entry_eq_ok_iff.mp hentry)
        rw [hsame]
        rwa [hentry] at h

/-- Only errors tell where the lines stand. -/
theorem result_readLines_number (other : Nat)
    (hread : (readLines production number lines s).result = .ok next) :
    (readLines production other lines s).result = .ok next := by
  induction lines generalizing number other s with
  | nil => exact hread
  | cons line lines ih =>
    obtain ⟨middle, hline, hrest⟩ := Outcome.result_andThen_eq_ok_iff.mp hread
    refine Outcome.result_andThen_eq_ok_iff.mpr ⟨middle, ?_, ih (other + 1) hrest⟩
    rw [result_readLine] at hline ⊢
    cases he : entryOfLine number line with
    | error e =>
      rw [he] at hline
      cases hline
    | ok e? =>
      rw [entryOfLine_number other he]
      rwa [he] at hline

end GlobalsState

theorem result_parseGlobals (production : Bool) (lines : List Line) :
    (parseGlobals production lines).result =
      (GlobalsState.readLines production 1 lines {}).result.map GlobalsState.globals := by
  unfold parseGlobals
  rw [Outcome.result_andThen]
  cases (GlobalsState.readLines production 1 lines {}).result <;> rfl

theorem parseGlobals_eq_ok_iff {production : Bool} {lines : List Line} {globals : Bindings} :
    (parseGlobals production lines).result = .ok globals ↔
      ∃ s, (GlobalsState.readLines production 1 lines {}).result = .ok s ∧ s.globals = globals := by
  rw [result_parseGlobals]
  cases (GlobalsState.readLines production 1 lines {}).result with
  | error e => simp [Except.map]
  | ok s => simp [Except.map]

section Parse

variable {production : Bool} {lines : List Line} {globals final : Bindings}

theorem parseGlobals_production_error_iff (e : BuildError) :
    (parseGlobals true lines).result = .error e ↔ (parseGlobals false lines).result = .error e := by
  rw [result_parseGlobals, result_parseGlobals]
  rcases GlobalsState.Alike.of_new.readLines true false 1 lines with
    ⟨e', htrue, hfalse⟩ | ⟨s, t, htrue, hfalse, -⟩
  · rw [htrue, hfalse]
  · rw [htrue, hfalse]
    exact iff_of_false nofun nofun

theorem contains_parseGlobals_production (h : (parseGlobals false lines).result = .ok globals)
    (hfinal : (parseGlobals true lines).result = .ok final) (v : Text) :
    final.contains v = globals.contains v := by
  obtain ⟨t, ht, rfl⟩ := parseGlobals_eq_ok_iff.mp h
  obtain ⟨s, hs, rfl⟩ := parseGlobals_eq_ok_iff.mp hfinal
  rcases GlobalsState.Alike.of_new.readLines true false 1 lines with
    ⟨e, htrue, -⟩ | ⟨s', t', htrue, hfalse, hsame⟩
  · cases htrue.symm.trans hs
  · cases htrue.symm.trans hs
    cases hfalse.symm.trans ht
    exact hsame.contains_eq v

theorem not_contains_productionKey (h : (parseGlobals production lines).result = .ok globals) :
    globals.contains productionKey = false := by
  obtain ⟨s, hs, rfl⟩ := parseGlobals_eq_ok_iff.mp h
  rcases GlobalsState.Alike.of_new.readLines production production 1 lines with
    ⟨e, herror, -⟩ | ⟨s', t', hok, -, hsame⟩
  · cases herror.symm.trans hs
  · cases hok.symm.trans hs
    exact hsame.not_contains

theorem find?_parseGlobals_iff (h : (parseGlobals production lines).result = .ok globals)
    (v x : Text) : globals.find? v = some x ↔
      LastGiven production (lines.filterMap Line.keyValue?) v x := by
  obtain ⟨s, hs, rfl⟩ := parseGlobals_eq_ok_iff.mp h
  exact (GlobalsState.Reached.of_new.readLines hs).find?_eq_some_iff v x

theorem find?_parseGlobals_false (h : (parseGlobals false lines).result = .ok globals) {v : Text}
    (hv : v ≠ productionKey) :
    globals.find? v = lastValue? v (lines.filterMap Line.keyValue?) := by
  refine Option.ext fun x => ?_
  rw [find?_parseGlobals_iff h, lastGiven_false_iff]
  exact and_iff_right hv

/-- Entries for production that no variable comes before may be left out. -/
theorem parseGlobals_of_append {before after : List Line}
    (hbefore : ∀ e ∈ before.filterMap Line.keyValue?, e.1 = productionKey)
    (h : (parseGlobals production (before ++ after)).result = .ok globals) :
    (parseGlobals production after).result = .ok globals := by
  obtain ⟨s, hs, rfl⟩ := parseGlobals_eq_ok_iff.mp h
  rw [GlobalsState.readLines_append] at hs
  cases hfirst : (GlobalsState.readLines production 1 before {}).result with
  | error e =>
    rw [hfirst] at hs
    cases hs
  | ok middle =>
    have hmiddle := GlobalsState.eq_of_forall_production rfl hbefore hfirst
    rw [hfirst, hmiddle] at hs
    exact parseGlobals_eq_ok_iff.mpr ⟨s, GlobalsState.result_readLines_number 1 hs, rfl⟩

end Parse

/-- A build for production refuses the same files of global variables for the same reasons, and
finds the same variables in the others, none of them named like the entries for production. Each
variable has the value that was given to it last: without production that of its last entry, for
production also one of an entry for production behind its entry, with no other variable defined in
between. Entries for production in front of all others may be left out. -/
theorem parseGlobals_production (content : ByteArray) :
    let lines := linesOfBytes content
    let entries := lines.filterMap Line.keyValue?
    (∀ e, (parseGlobals true lines).result = .error e ↔
        (parseGlobals false lines).result = .error e) ∧
      (∀ globals final, (parseGlobals false lines).result = .ok globals →
        (parseGlobals true lines).result = .ok final →
        (∀ v, final.contains v = globals.contains v) ∧
          ∀ v ≠ productionKey, globals.find? v = lastValue? v entries) ∧
      (∀ production globals, (parseGlobals production lines).result = .ok globals →
        globals.contains productionKey = false ∧
          ∀ v x, globals.find? v = some x ↔ LastGiven production entries v x) ∧
      ∀ production globals before after, lines = before ++ after →
        (∀ e ∈ before.filterMap Line.keyValue?, e.1 = productionKey) →
        (parseGlobals production lines).result = .ok globals →
        (parseGlobals production after).result = .ok globals := by
  intro lines entries
  refine ⟨parseGlobals_production_error_iff, fun globals final hread hfinal => ⟨?_, ?_⟩,
    fun production globals hread => ⟨not_contains_productionKey hread, ?_⟩, ?_⟩
  · exact contains_parseGlobals_production hread hfinal
  · exact fun v hv => find?_parseGlobals_false hread hv
  · exact find?_parseGlobals_iff hread
  · intro production globals before after hlines hbefore hread
    rw [hlines] at hread
    exact parseGlobals_of_append hbefore hread

/-- Of two values for production the first one comes before the variable, the second one behind
it. -/
theorem parseGlobals_production_override :
    let spec := Text.encode "prod: 0\nx: 1\nprod: 2\n".toList
    ∃ globals final, (parseGlobals false (linesOfBytes spec)).result = .ok globals ∧
      (parseGlobals true (linesOfBytes spec)).result = .ok final ∧
      globals.find? ['x'] = some ['1'] ∧ final.find? ['x'] = some ['2'] ∧
      ∀ v, final.contains v = globals.contains v := by
  intro spec
  have hglobals : (parseGlobals false (linesOfBytes spec)).result =
      .ok ((∅ : Bindings).insert ['x'] ['1']) := rfl
  have hfinal : (parseGlobals true (linesOfBytes spec)).result =
      .ok ((∅ : Bindings).insert ['x'] ['2']) := rfl
  obtain ⟨-, hsame, hvalues, -⟩ := parseGlobals_production spec
  obtain ⟨hcontains, hfirst⟩ := hsame _ _ hglobals hfinal
  obtain ⟨-, hlast⟩ := hvalues true _ hfinal
  refine ⟨_, _, hglobals, hfinal, ?_, ?_, hcontains⟩
  · rw [hfirst ['x'] (by decide)]
    rfl
  · have hgives : GivesTo true [(productionKey, ['0']), (['x'], ['1'])] productionKey ['x'] :=
      .inr ⟨rfl, rfl, rfl⟩
    exact (hlast ['x'] ['2']).mpr ⟨_, _, [], rfl, hgives, by simp⟩

end StaticSite.Spec
