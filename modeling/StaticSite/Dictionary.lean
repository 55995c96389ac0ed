/-!
# Dictionaries

A dictionary gives values to finitely many keys. Its entries are kept in strictly ascending order
of their keys, which makes the order of its entries a property of what it holds and not of how it
was filled: two dictionaries with the same values are equal (`Dictionary.ext_find?`).

The view of a dictionary is `find?`. Each operation has one equation on it: `find?_insert`,
`find?_filterKeys`, `find?_union`.
-/

namespace StaticSite

/-- What a dictionary asks of its keys: that `<` is a strict linear order. -/
class OrderedKey (κ : Type) [LT κ] : Prop where
  /-- No key is less than itself. -/
  lt_irrefl (k : κ) : ¬ k < k
  /-- What is less than a lesser key is less. -/
  lt_trans {j k l : κ} : j < k → k < l → j < l
  /-- Of two different keys, one is less. -/
  lt_trichotomy (j k : κ) : j < k ∨ j = k ∨ k < j

/-- The keys of a linear order can be keys of a dictionary. -/
theorem OrderedKey.ofLinearOrder (κ : Type) [LT κ] [LE κ] [Std.IsLinearOrder κ]
    [Std.LawfulOrderLT κ] : OrderedKey κ where
  lt_irrefl _ := Std.lt_irrefl
  lt_trans := Std.lt_trans
  lt_trichotomy := Std.lt_trichotomy

/-- The value of a key in a list of entries, the first one if there are several. -/
def lookupEntry {κ α : Type} [DecidableEq κ] (k : κ) : List (κ × α) → Option α
  | [] => none
  | e :: es => if e.1 = k then some e.2 else lookupEntry k es

/-- Puts a value at its place in a list of entries with ascending keys, replacing one with the same
key. -/
def insertEntry {κ α : Type} [LT κ] [DecidableLT κ] [DecidableEq κ] (k : κ) (a : α) :
    List (κ × α) → List (κ × α)
  | [] => [(k, a)]
  | e :: es =>
    if k < e.1 then (k, a) :: e :: es
    else if k = e.1 then (k, a) :: es
    else e :: insertEntry k a es

/-- Values for finitely many keys, in ascending order of the keys. -/
structure Dictionary (κ α : Type) [LT κ] where
  /-- The keys with their values. -/
  entries : List (κ × α)
  /-- The keys ascend. -/
  ordered : entries.Pairwise fun d e => d.1 < e.1

namespace Dictionary

variable {κ α β : Type} [LT κ]

theorem ext_entries {d e : Dictionary κ α} (h : d.entries = e.entries) : d = e := by
  cases d
  cases e
  simp_all

instance [DecidableEq κ] [DecidableEq α] : DecidableEq (Dictionary κ α) := fun d e =>
  if h : d.entries = e.entries then isTrue (ext_entries h)
  else isFalse fun he => h (he ▸ rfl)

/-- The dictionary without entries. -/
def empty : Dictionary κ α where
  entries := []
  ordered := .nil

instance : EmptyCollection (Dictionary κ α) := ⟨empty⟩

instance : Inhabited (Dictionary κ α) := ⟨empty⟩

/-- The keys, ascending. -/
def keys (d : Dictionary κ α) : List κ :=
  d.entries.map Prod.fst

/-- The values, in the order of their keys. -/
def values (d : Dictionary κ α) : List α :=
  d.entries.map Prod.snd

/-- The number of keys that have a value. -/
def size (d : Dictionary κ α) : Nat :=
  d.entries.length

/-- The value of a key. -/
def find? [DecidableEq κ] (d : Dictionary κ α) (k : κ) : Option α :=
  lookupEntry k d.entries

/-- Whether a key has a value. -/
def contains [DecidableEq κ] (d : Dictionary κ α) (k : κ) : Bool :=
  (d.find? k).isSome

/-- The entries whose keys pass a test. -/
def filterKeys (d : Dictionary κ α) (p : κ → Bool) : Dictionary κ α where
  entries := d.entries.filter fun e => p e.1
  ordered := d.ordered.sublist List.filter_sublist

/-- The dictionary with every value changed by a function. -/
def mapValues (d : Dictionary κ α) (f : α → β) : Dictionary κ β where
  entries := d.entries.map fun e => (e.1, f e.2)
  ordered := by
    rw [List.pairwise_map]
    exact d.ordered

/-! ## Insertion -/

variable [DecidableLT κ] [DecidableEq κ]

theorem mem_insertEntry {k : κ} {a : α} {es : List (κ × α)} {e : κ × α}
    (h : e ∈ insertEntry k a es) : e = (k, a) ∨ e ∈ es := by
  induction es with
  | nil => simpa [insertEntry] using h
  | cons d es ih =>
    rw [insertEntry] at h
    split at h
    · simpa using h
    · split at h
      · rcases List.mem_cons.mp h with h | h
        · exact .inl h
        · exact .inr (List.mem_cons_of_mem _ h)
      · rcases List.mem_cons.mp h with h | h
        · exact .inr (h ▸ List.mem_cons_self)
        · exact (ih h).imp_right (List.mem_cons_of_mem _)

theorem pairwise_insertEntry [OrderedKey κ] (k : κ) (a : α)
    {es : List (κ × α)} (h : es.Pairwise fun d e => d.1 < e.1) :
    (insertEntry k a es).Pairwise fun d e => d.1 < e.1 := by
  induction es with
  | nil => simp [insertEntry]
  | cons d es ih =>
    have hd := (List.pairwise_cons.mp h).1
    rw [insertEntry]
    split
    next hlt =>
      refine .cons (fun e he => ?_) h
      rcases List.mem_cons.mp he with rfl | he
      · exact hlt
      · exact OrderedKey.lt_trans hlt (hd e he)
    next hlt =>
      split
      next heq => exact .cons (fun e he => heq ▸ hd e he) h.of_cons
      next hne =>
        refine .cons (fun e he => ?_) (ih h.of_cons)
        rcases mem_insertEntry he with rfl | he
        · exact ((OrderedKey.lt_trichotomy k d.1).resolve_left hlt).resolve_left hne
        · exact hd e he

variable [OrderedKey κ]

/-- Gives a value to a key, in place of the one it may have. -/
def insert (d : Dictionary κ α) (k : κ) (a : α) : Dictionary κ α where
  entries := insertEntry k a d.entries
  ordered := pairwise_insertEntry k a d.ordered

/-- The dictionary of a list of entries; of several values for one key the last one counts. -/
def ofList (es : List (κ × α)) : Dictionary κ α :=
  es.foldl (fun d e => d.insert e.1 e.2) empty

/-- The entries of two dictionaries; where both have a key, the value of the second one counts. -/
def union (d e : Dictionary κ α) : Dictionary κ α :=
  e.entries.foldl (fun d e => d.insert e.1 e.2) d

/-! ## The view -/

omit [DecidableLT κ] [OrderedKey κ] in
@[simp]
theorem find?_empty (k : κ) : (empty : Dictionary κ α).find? k = none := rfl

omit [OrderedKey κ] in
theorem lookupEntry_insertEntry (k : κ) (a : α) (es : List (κ × α)) (j : κ) :
    lookupEntry j (insertEntry k a es) = if k = j then some a else lookupEntry j es := by
  induction es with
  | nil => simp [insertEntry, lookupEntry]
  | cons e es ih =>
    rw [insertEntry]
    split
    · simp [lookupEntry]
    · split
      next h => subst h; by_cases hj : e.1 = j <;> simp [lookupEntry, hj]
      next h =>
        by_cases hj : e.1 = j
        · have : k ≠ j := fun hk => h (hk.trans hj.symm)
          simp [lookupEntry, hj, this]
        · simp [lookupEntry, hj, ih]

/-- A key finds the value it was last given. -/
theorem find?_insert (d : Dictionary κ α) (k : κ) (a : α) (j : κ) :
    (d.insert k a).find? j = if k = j then some a else d.find? j :=
  lookupEntry_insertEntry k a d.entries j

theorem contains_insert (d : Dictionary κ α) (k : κ) (a : α) (j : κ) :
    (d.insert k a).contains j = (decide (k = j) || d.contains j) := by
  unfold contains
  rw [find?_insert]
  by_cases h : k = j <;> simp [h]

omit [LT κ] [DecidableLT κ] [OrderedKey κ] in
theorem lookupEntry_filter (p : κ → Bool) (es : List (κ × α)) (k : κ) :
    lookupEntry k (es.filter fun e => p e.1) = if p k then lookupEntry k es else none := by
  induction es with
  | nil => simp [lookupEntry]
  | cons e es ih =>
    rw [List.filter_cons]
    by_cases hp : p e.1
    · by_cases hk : e.1 = k
      · subst hk
        simp [hp, lookupEntry]
      · simp [hp, lookupEntry, hk, ih]
    · by_cases hk : e.1 = k
      · subst hk
        simp [hp, ih]
      · simp [hp, lookupEntry, hk, ih]

omit [DecidableLT κ] [OrderedKey κ] in
theorem find?_filterKeys (d : Dictionary κ α) (p : κ → Bool) (k : κ) :
    (d.filterKeys p).find? k = if p k then d.find? k else none :=
  lookupEntry_filter p d.entries k

omit [DecidableLT κ] [LT κ] [OrderedKey κ] in
theorem mem_of_lookupEntry {k : κ} {a : α} {es : List (κ × α)} (h : lookupEntry k es = some a) :
    (k, a) ∈ es := by
  induction es with
  | nil => simp [lookupEntry] at h
  | cons e es ih =>
    rw [lookupEntry] at h
    split at h
    next hk =>
      simp only [Option.some.injEq] at h
      subst hk h
      exact List.mem_cons_self
    next => exact List.mem_cons_of_mem _ (ih h)

omit [DecidableLT κ] [OrderedKey κ] in
/-- What is found is an entry. -/
theorem mem_entries_of_find? {d : Dictionary κ α} {k : κ} {a : α} (h : d.find? k = some a) :
    (k, a) ∈ d.entries :=
  mem_of_lookupEntry h

omit [DecidableLT κ] [OrderedKey κ] [LT κ] in
/-- A key that no entry has finds nothing. -/
theorem lookupEntry_eq_none {k : κ} {es : List (κ × α)} (h : ∀ e ∈ es, e.1 ≠ k) :
    lookupEntry k es = none := by
  induction es with
  | nil => rfl
  | cons e es ih =>
    rw [lookupEntry, if_neg (h e List.mem_cons_self)]
    exact ih fun d hd => h d (List.mem_cons_of_mem _ hd)

omit [DecidableLT κ] [OrderedKey κ] [LT κ] in
theorem lookupEntry_eq_none_iff {k : κ} {es : List (κ × α)} :
    lookupEntry k es = none ↔ ∀ e ∈ es, e.1 ≠ k := by
  refine ⟨fun h => ?_, lookupEntry_eq_none⟩
  induction es with
  | nil => exact fun e he => absurd he List.not_mem_nil
  | cons d es ih =>
    rw [lookupEntry] at h
    split at h
    · cases h
    next hne => exact List.forall_mem_cons.mpr ⟨hne, ih h⟩

omit [DecidableLT κ] in
theorem entries_eq_of_lookupEntry {ds es : List (κ × α)}
    (hds : ds.Pairwise fun d e => d.1 < e.1) (hes : es.Pairwise fun d e => d.1 < e.1)
    (h : ∀ k, lookupEntry k ds = lookupEntry k es) : ds = es := by
  induction ds generalizing es with
  | nil =>
    cases es with
    | nil => rfl
    | cons e es => simpa [lookupEntry] using h e.1
  | cons d ds ih =>
    cases es with
    | nil => simpa [lookupEntry] using h d.1
    | cons e es =>
      have hd := (List.pairwise_cons.mp hds).1
      have he := (List.pairwise_cons.mp hes).1
      have hde : d.1 = e.1 := by
        apply Classical.byContradiction
        intro hne
        rcases OrderedKey.lt_trichotomy d.1 e.1 with hlt | heq | hlt
        · have hk := h d.1
          rw [show lookupEntry d.1 (e :: es) = none from lookupEntry_eq_none ?_] at hk
          · simp [lookupEntry] at hk
          · intro c hc
            rcases List.mem_cons.mp hc with rfl | hc
            · exact fun hcd => hne hcd.symm
            · intro hcd
              exact OrderedKey.lt_irrefl _ (hcd ▸ OrderedKey.lt_trans hlt (he c hc))
        · exact hne heq
        · have hk := h e.1
          rw [show lookupEntry e.1 (d :: ds) = none from lookupEntry_eq_none ?_] at hk
          · simp [lookupEntry] at hk
          · intro c hc
            rcases List.mem_cons.mp hc with rfl | hc
            · exact hne
            · intro hcd
              exact OrderedKey.lt_irrefl _ (hcd ▸ OrderedKey.lt_trans hlt (hd c hc))
      have hk := h d.1
      simp only [lookupEntry, hde, ↓reduceIte, Option.some.injEq] at hk
      have htail : ds = es := by
        refine ih hds.of_cons hes.of_cons fun k => ?_
        by_cases hkd : d.1 = k
        · subst hkd
          rw [lookupEntry_eq_none fun c hc hcd => OrderedKey.lt_irrefl _ (hcd ▸ hd c hc),
            lookupEntry_eq_none fun c hc hcd => OrderedKey.lt_irrefl _ (hcd ▸ hde ▸ he c hc)]
        · have hk := h k
          rwa [lookupEntry, if_neg hkd, lookupEntry, if_neg (hde ▸ hkd)] at hk
      rw [htail, Prod.ext hde hk]

omit [DecidableLT κ] [DecidableEq κ] in
/-- No key is listed twice. -/
theorem nodup_keys (d : Dictionary κ α) : d.keys.Nodup := by
  rw [keys, List.nodup_iff_pairwise_ne, List.pairwise_map]
  refine d.ordered.imp fun {a b} hlt heq => ?_
  rw [heq] at hlt
  exact OrderedKey.lt_irrefl _ hlt

omit [DecidableLT κ] in
/-- A dictionary is determined by what its keys find. -/
theorem ext_find? {d e : Dictionary κ α} (h : ∀ k, d.find? k = e.find? k) : d = e :=
  ext_entries (entries_eq_of_lookupEntry d.ordered e.ordered h)

omit [DecidableLT κ] in
theorem lookupEntry_of_mem {es : List (κ × α)} (hes : es.Pairwise fun d e => d.1 < e.1) {k : κ}
    {a : α} (h : (k, a) ∈ es) : lookupEntry k es = some a := by
  induction es with
  | nil => exact absurd h List.not_mem_nil
  | cons e es ih =>
    have hlater := (List.pairwise_cons.mp hes).1
    rw [lookupEntry]
    rcases List.mem_cons.mp h with rfl | hmem
    · exact if_pos rfl
    · have hne : e.1 ≠ k := fun heq => OrderedKey.lt_irrefl _ (heq ▸ hlater _ hmem)
      rw [if_neg hne]
      exact ih hes.of_cons hmem

omit [DecidableLT κ] in
/-- An entry is found by its key. -/
theorem find?_of_mem_entries {d : Dictionary κ α} {k : κ} {a : α} (h : (k, a) ∈ d.entries) :
    d.find? k = some a :=
  lookupEntry_of_mem d.ordered h

theorem find?_foldl_insert (d : Dictionary κ α) {es : List (κ × α)}
    (hes : es.Pairwise fun d e => d.1 < e.1) (k : κ) :
    (es.foldl (fun d e => d.insert e.1 e.2) d).find? k = (lookupEntry k es).or (d.find? k) := by
  induction es generalizing d with
  | nil => rfl
  | cons e es ih =>
    have hlater := (List.pairwise_cons.mp hes).1
    rw [List.foldl_cons, ih _ hes.of_cons, find?_insert, lookupEntry]
    by_cases hk : e.1 = k
    · subst hk
      have hnone : lookupEntry e.1 es = none := by
        refine lookupEntry_eq_none fun c hc heq => ?_
        exact OrderedKey.lt_irrefl _ (heq ▸ hlater c hc)
      rw [hnone, if_pos rfl, if_pos rfl]
      rfl
    · rw [if_neg hk, if_neg hk]

/-- A key finds its value in the second dictionary, or else the one in the first. -/
theorem find?_union (d e : Dictionary κ α) (k : κ) :
    (d.union e).find? k = (e.find? k).or (d.find? k) :=
  find?_foldl_insert d e.ordered k

theorem union_insert (d e : Dictionary κ α) (k : κ) (a : α) :
    d.union (e.insert k a) = (d.union e).insert k a := by
  refine ext_find? fun j => ?_
  rw [find?_union, find?_insert, find?_insert, find?_union]
  by_cases hk : k = j
  · rw [if_pos hk, if_pos hk]
    rfl
  · rw [if_neg hk, if_neg hk]

theorem union_empty (d : Dictionary κ α) : d.union ∅ = d := rfl

end Dictionary

end StaticSite
