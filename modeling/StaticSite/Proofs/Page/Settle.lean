import StaticSite.Proofs.Page.Fill

/-!
# How far settling goes

Settling fills in the values of a page round by round. A text is settled (`Page.Settled`) when it
has no post placeholder left or when a round changes nothing; the number of rounds until then is the
first one after which it is settled (`Page.SettlesAfter`), if there is one.

Settling is meant to give the first settled text, however many rounds that takes, and to report a
circle exactly when there is none (`Page.SettlesExactly`). It stops after `Page.roundLimit` rounds,
though, so it does if and only if the text does not settle later than that
(`Page.settlesExactly_iff_suffices`). Placeholders in placeholders take one round for each level
and refer to nothing in a circle: enough of them take longer (`Page.not_settlesExactly_nested`).
-/

namespace StaticSite

namespace Page

/-- Nothing is left to do: no post placeholder is left, or a round changes nothing. -/
def Settled (p : Page) (t : Text) : Prop :=
  hasPostPlaceholder t = false ∨ p.fillPage t = t

instance (p : Page) (t : Text) : Decidable (p.Settled t) :=
  inferInstanceAs (Decidable (_ ∨ _))

/-- The text is settled after `n` rounds and not before; each of these rounds changes it. -/
structure SettlesAfter (p : Page) (t : Text) (n : Nat) : Prop where
  /-- The text is settled after `n` rounds. -/
  settled : p.Settled (p.fillPage^[n] t)
  /-- It is not settled before. -/
  unsettled : ∀ m < n, ¬ p.Settled (p.fillPage^[m] t)

/-- Whether `rounds` rounds are enough for a text that settles after `n` rounds. After the last one
only post placeholders are looked for. -/
def Suffices (p : Page) (t : Text) (rounds n : Nat) : Prop :=
  n < rounds ∨ n = rounds ∧ hasPostPlaceholder (p.fillPage^[n] t) = false

section Settling

variable {p : Page} {t : Text}

theorem not_settled_iff : ¬ p.Settled t ↔ hasPostPlaceholder t = true ∧ p.fillPage t ≠ t := by
  simp [Settled]

theorem settlesAfter_zero_iff : p.SettlesAfter t 0 ↔ p.Settled t :=
  ⟨fun h => h.settled, fun h => ⟨h, fun _ hm => absurd hm (Nat.not_lt_zero _)⟩⟩

theorem settlesAfter_succ_iff {n : Nat} :
    p.SettlesAfter t (n + 1) ↔ ¬ p.Settled t ∧ p.SettlesAfter (p.fillPage t) n := by
  constructor
  · intro h
    exact ⟨h.unsettled 0 (Nat.succ_pos n), h.settled,
      fun m hm => h.unsettled (m + 1) (Nat.succ_lt_succ hm)⟩
  · rintro ⟨hzero, hsettled, hbefore⟩
    refine ⟨hsettled, fun m hm => ?_⟩
    cases m with
    | zero => exact hzero
    | succ m => exact hbefore m (Nat.lt_of_succ_lt_succ hm)

theorem SettlesAfter.unique {m n : Nat} (hm : p.SettlesAfter t m) (hn : p.SettlesAfter t n) :
    m = n := by
  rcases Nat.lt_trichotomy m n with hlt | heq | hlt
  · exact absurd hm.settled (hn.unsettled m hlt)
  · exact heq
  · exact absurd hn.settled (hm.unsettled n hlt)

/-- A text that is settled after some rounds has a first round after which it is. -/
theorem exists_settlesAfter {n : Nat} (h : p.Settled (p.fillPage^[n] t)) :
    ∃ m ≤ n, p.SettlesAfter t m := by
  induction n generalizing t with
  | zero => exact ⟨0, Nat.le_refl 0, settlesAfter_zero_iff.mpr h⟩
  | succ n ih =>
    by_cases hzero : p.Settled t
    · exact ⟨0, Nat.zero_le _, settlesAfter_zero_iff.mpr hzero⟩
    · obtain ⟨m, hm, hafter⟩ := ih h
      exact ⟨m + 1, Nat.succ_le_succ hm, settlesAfter_succ_iff.mpr ⟨hzero, hafter⟩⟩

theorem suffices_succ_iff {rounds n : Nat} :
    p.Suffices t (rounds + 1) (n + 1) ↔ p.Suffices (p.fillPage t) rounds n := by
  simp [Suffices]

/-! ## What settling gives -/

theorem settleWithin_of_settled_succ (h : p.Settled t) (name : Text) (rounds : Nat) :
    p.settleWithin name (rounds + 1) t = .ok t := by
  rcases h with hpost | hsame
  · exact settleWithin_of_settled hpost name _
  · exact settleWithin_of_fillPage_eq_self hsame name rounds

/-- The only failure of settling is a circle. -/
theorem eq_postFieldCycle_of_settleWithin {name : Text} {rounds : Nat} {e : BuildError}
    (h : p.settleWithin name rounds t = .error e) : e = .postFieldCycle name := by
  induction rounds generalizing t with
  | zero =>
    rw [settleWithin] at h
    split at h
    · cases h
    · cases h
      rfl
  | succ rounds ih =>
    by_cases hsettled : p.Settled t
    · rw [settleWithin_of_settled_succ hsettled] at h
      cases h
    · obtain ⟨hpost, hchange⟩ := not_settled_iff.mp hsettled
      rw [settleWithin_of_fillPage_ne hpost hchange] at h
      exact ih h

/-- Settling gives the text after `n` rounds exactly if the text settles after `n` rounds and the
rounds it may use suffice for that. -/
theorem settleWithin_eq_ok_iff {name : Text} {rounds : Nat} {out : Text} :
    p.settleWithin name rounds t = .ok out ↔
      ∃ n, p.SettlesAfter t n ∧ p.Suffices t rounds n ∧ out = p.fillPage^[n] t := by
  induction rounds generalizing t with
  | zero =>
    constructor
    · intro h
      rw [settleWithin] at h
      split at h
      next hpost =>
        have hfree : hasPostPlaceholder t = false := by simpa using hpost
        exact ⟨0, settlesAfter_zero_iff.mpr (.inl hfree), .inr ⟨rfl, hfree⟩, (Except.ok.inj h).symm⟩
      next => cases h
    · rintro ⟨n, -, hlt | ⟨rfl, hfree⟩, rfl⟩
      · exact absurd hlt (Nat.not_lt_zero n)
      · exact settleWithin_of_settled hfree name 0
  | succ rounds ih =>
    by_cases hsettled : p.Settled t
    · have hzero := settlesAfter_zero_iff.mpr hsettled
      rw [settleWithin_of_settled_succ hsettled]
      constructor
      · intro h
        cases h
        exact ⟨0, hzero, .inl (Nat.succ_pos rounds), rfl⟩
      · rintro ⟨n, hn, -, rfl⟩
        rw [hn.unique hzero]
        rfl
    · obtain ⟨hpost, hchange⟩ := not_settled_iff.mp hsettled
      rw [settleWithin_of_fillPage_ne hpost hchange, ih]
      constructor
      · rintro ⟨n, hn, hrounds, rfl⟩
        exact ⟨n + 1, settlesAfter_succ_iff.mpr ⟨hsettled, hn⟩, suffices_succ_iff.mpr hrounds, rfl⟩
      · rintro ⟨n, hn, hrounds, rfl⟩
        cases n with
        | zero => exact absurd (settlesAfter_zero_iff.mp hn) hsettled
        | succ n =>
          exact ⟨n, (settlesAfter_succ_iff.mp hn).2, suffices_succ_iff.mp hrounds, rfl⟩

/-- Settling reports a circle exactly for the texts that never settle, and otherwise gives the first
settled text. -/
def SettlesExactly (p : Page) (name t : Text) : Prop :=
  (p.settleFields name t = .error (.postFieldCycle name) ↔
      ∀ n, ¬ p.Settled (p.fillPage^[n] t)) ∧
    ∀ n, p.SettlesAfter t n → p.settleFields name t = .ok (p.fillPage^[n] t)

theorem settlesExactly_iff_suffices {name : Text} :
    p.SettlesExactly name t ↔ ∀ n, p.SettlesAfter t n → p.Suffices t p.roundLimit n := by
  constructor
  · intro h n hn
    obtain ⟨m, hm, hrounds, -⟩ := settleWithin_eq_ok_iff.mp (h.2 n hn)
    rwa [hn.unique hm]
  · intro h
    have hok : ∀ n, p.SettlesAfter t n → p.settleFields name t = .ok (p.fillPage^[n] t) :=
      fun n hn => settleWithin_eq_ok_iff.mpr ⟨n, hn, h n hn, rfl⟩
    refine ⟨⟨fun herror n hn => ?_, fun hnever => ?_⟩, hok⟩
    · obtain ⟨m, -, hm⟩ := exists_settlesAfter hn
      rw [hok m hm] at herror
      cases herror
    · cases hresult : p.settleFields name t with
      | error e => rw [eq_postFieldCycle_of_settleWithin hresult]
      | ok out =>
        obtain ⟨n, hn, -⟩ := settleWithin_eq_ok_iff.mp hresult
        exact absurd hn.settled (hnever n)

theorem settlesExactly_of_lt {name : Text}
    (h : ∃ n < p.roundLimit, p.Settled (p.fillPage^[n] t)) : p.SettlesExactly name t := by
  obtain ⟨n, hn, hsettled⟩ := h
  obtain ⟨m, hm, hafter⟩ := exists_settlesAfter hsettled
  refine settlesExactly_iff_suffices.mpr fun k hk => .inl ?_
  rw [hk.unique hafter]
  omega

end Settling

/-! ## Placeholders in placeholders -/

/-- A text without at signs has no variables. -/
theorem fillVariables_eq_self (vars : Bindings) {t : Text} (h : '@' ∉ t) :
    fillVariables vars t = t := by
  refine substitute_eq_self fun q hq => ?_
  obtain ⟨sigil, body⟩ := q
  cases sigil with
  | template => rfl
  | post => rfl
  | value => exact absurd (char_mem_of_mem_placeholders hq) h

/-- What stands before a placeholder that breaks up the name of a title placeholder. -/
def brokenOpen : Text :=
  '#' :: '{' :: "post-ti".toList

/-- What stands behind a placeholder that breaks up the name of a title placeholder. -/
def brokenClose : Text :=
  "tle".toList ++ ['}']

/-- A title placeholder whose name is broken up by another one, which is broken up by a further one,
and so on for `levels` levels. -/
def nestedTitles : (levels : Nat) → Text
  | 0 => "#{post-title}".toList
  | levels + 1 => brokenOpen ++ (nestedTitles levels ++ brokenClose)

example : nestedTitles 2 = "#{post-ti#{post-ti#{post-title}tle}tle}".toList := by decide

theorem nestedTitles_succ (levels : Nat) :
    nestedTitles (levels + 1) = brokenOpen ++ (nestedTitles levels ++ brokenClose) := rfl

theorem at_not_mem_nestedTitles (levels : Nat) : '@' ∉ nestedTitles levels := by
  induction levels with
  | zero =>
    show '@' ∉ "#{post-title}".toList
    decide
  | succ levels ih =>
    have hopen : '@' ∉ brokenOpen := by decide
    have hclose : '@' ∉ brokenClose := by decide
    rw [nestedTitles_succ, List.mem_append, List.mem_append, not_or, not_or]
    exact ⟨hopen, ih, hclose⟩

/-- Each level begins with a placeholder. -/
theorem exists_nestedTitles_eq (levels : Nat) : ∃ t, nestedTitles levels = '#' :: t := by
  cases levels with
  | zero => exact ⟨_, rfl⟩
  | succ levels => exact ⟨_, rfl⟩

/-- No post field has a name that another placeholder breaks up. -/
theorem field?_eq_none_of_broken (p : Page) {body rest t : Text}
    (h : "post-ti".toList ++ '#' :: t = body ++ '}' :: rest) : p.field? body = none := by
  rw [field?_eq_none_iff]
  intro hname
  have hnames : ∀ name ∈ fieldNames, 7 < name.length ∧ name[7]? ≠ some '#' := by decide
  obtain ⟨hlength, hseventh⟩ := hnames body hname
  have hat : ("post-ti".toList ++ '#' :: t)[7]? = some '#' := rfl
  rw [h, List.getElem?_append_left hlength] at hat
  exact hseventh hat

/-- The outer levels wait for the inner ones. -/
theorem fillFields_open (p : Page) (t : Text) :
    p.fillFields (brokenOpen ++ '#' :: t) = brokenOpen ++ p.fillFields ('#' :: t) := by
  have hskip : p.fillFields (('{' :: "post-ti".toList) ++ '#' :: t) =
      ('{' :: "post-ti".toList) ++ p.fillFields ('#' :: t) :=
    substitute_append_plain _ (by decide : SigilFree ('{' :: "post-ti".toList)) _
  have hcons (u : Text) : brokenOpen ++ u = '#' :: (('{' :: "post-ti".toList) ++ u) := rfl
  rw [hcons, hcons, ← hskip]
  cases hat : Placeholder.atStart? ('#' :: (('{' :: "post-ti".toList) ++ '#' :: t)) with
  | none => exact substitute_cons_none _ hat
  | some found =>
    obtain ⟨⟨sigil, body⟩, rest⟩ := found
    obtain ⟨-, heq⟩ := Placeholder.atStart?_eq_some_iff.mp hat
    rw [Placeholder.raw_append] at heq
    obtain ⟨-, htail⟩ := List.cons.inj heq
    have hbroken : "post-ti".toList ++ '#' :: t = body ++ '}' :: rest :=
      List.tail_eq_of_cons_eq htail
    refine substitute_cons_kept hat ?_
    cases sigil with
    | template => rfl
    | value => rfl
    | post => exact p.field?_eq_none_of_broken hbroken

theorem fillFields_nestedTitles_succ (p : Page) (levels : Nat) (t : Text) :
    p.fillFields (nestedTitles (levels + 1) ++ t) =
      brokenOpen ++ p.fillFields (nestedTitles levels ++ (brokenClose ++ t)) := by
  obtain ⟨u, hu⟩ := exists_nestedTitles_eq levels
  rw [nestedTitles_succ, List.append_assoc, List.append_assoc, hu]
  exact p.fillFields_open _

section EmptyTitle

variable {p : Page} (hp : p.title = [])

include hp

/-- A round fills in the innermost level, and the level around it is the innermost one then. -/
theorem fillFields_nestedTitles_append (levels : Nat) {t : Text} (ht : SigilFree t) :
    p.fillFields (nestedTitles (levels + 1) ++ t) = nestedTitles levels ++ t := by
  have hclose : SigilFree (brokenClose ++ t) := .append (by decide) ht
  rw [fillFields_nestedTitles_succ]
  induction levels generalizing t with
  | zero =>
    have hplain : Placeholder.Plain ⟨.post, "post-title".toList⟩ := ⟨by decide, by decide⟩
    have hvalue : p.fieldResolver ⟨.post, "post-title".toList⟩ = some [] := congrArg some hp
    have hinert : Inert (brokenClose ++ t) := .of_plain hclose
    have htitle := substitute_raw_append p.fieldResolver hplain (brokenClose ++ t)
    rw [hvalue, Option.getD_some, List.nil_append, hinert.substitute_eq] at htitle
    exact congrArg (brokenOpen ++ ·) htitle
  | succ levels ih =>
    have hclose' : SigilFree (brokenClose ++ (brokenClose ++ t)) := .append (by decide) hclose
    rw [fillFields_nestedTitles_succ, ih hclose hclose', nestedTitles_succ, List.append_assoc,
      List.append_assoc]

theorem fillPage_nestedTitles_succ (levels : Nat) :
    p.fillPage (nestedTitles (levels + 1)) = nestedTitles levels := by
  have hround := fillFields_nestedTitles_append hp levels (t := []) (by decide)
  rw [List.append_nil, List.append_nil] at hround
  rw [fillPage, fillVariables_eq_self _ (at_not_mem_nestedTitles _), hround]

theorem fillPage_nestedTitles_zero : p.fillPage (nestedTitles 0) = [] := by
  have hplain : Placeholder.Plain ⟨.post, "post-title".toList⟩ := ⟨by decide, by decide⟩
  have hvalue : p.fieldResolver ⟨.post, "post-title".toList⟩ = some [] := congrArg some hp
  have hraw := substitute_raw p.fieldResolver hplain
  rw [hvalue] at hraw
  rw [fillPage, fillVariables_eq_self _ (at_not_mem_nestedTitles _)]
  exact hraw

theorem not_settled_nestedTitles (levels : Nat) : ¬ p.Settled (nestedTitles levels) := by
  have hchange : p.fillPage (nestedTitles levels) ≠ nestedTitles levels := by
    intro h
    have hlength := congrArg List.length h
    cases levels with
    | zero =>
      rw [fillPage_nestedTitles_zero hp] at hlength
      exact absurd hlength (by decide)
    | succ levels =>
      rw [fillPage_nestedTitles_succ hp, nestedTitles_succ, List.length_append,
        List.length_append] at hlength
      have hpos : brokenOpen.length = 9 := rfl
      omega
  have hfields : p.fillFields (nestedTitles levels) ≠ nestedTitles levels := by
    rwa [fillPage, fillVariables_eq_self _ (at_not_mem_nestedTitles _)] at hchange
  have hpost : hasPostPlaceholder (nestedTitles levels) = true :=
    eq_true_of_ne_false fun hfree => hfields (fillFields_eq_self hfree)
  exact not_settled_iff.mpr ⟨hpost, hchange⟩

/-- The levels come off one by one, and no value refers to anything. -/
theorem settlesAfter_nestedTitles (levels : Nat) :
    p.SettlesAfter (nestedTitles levels) (levels + 1) := by
  induction levels with
  | zero =>
    refine settlesAfter_succ_iff.mpr ⟨not_settled_nestedTitles hp 0, ?_⟩
    rw [fillPage_nestedTitles_zero hp]
    exact settlesAfter_zero_iff.mpr (.inl rfl)
  | succ levels ih =>
    refine settlesAfter_succ_iff.mpr ⟨not_settled_nestedTitles hp (levels + 1), ?_⟩
    rwa [fillPage_nestedTitles_succ hp]

/-- As many levels as there may be rounds are too many, whatever the other values are. -/
theorem not_settlesExactly_of_title_eq_nil (name : Text) :
    ¬ p.SettlesExactly name (nestedTitles p.roundLimit) := by
  intro h
  rcases settlesExactly_iff_suffices.mp h _ (settlesAfter_nestedTitles hp _) with hlt | ⟨heq, -⟩
  · omega
  · omega

end EmptyTitle

/-- Nine title placeholders in each other on an empty page settle into the empty text after nine
rounds. Settling gives up after eight. -/
theorem not_settlesExactly_nested : ¬ ({} : Page).SettlesExactly "p".toList (nestedTitles 8) :=
  not_settlesExactly_of_title_eq_nil rfl _

end Page

end StaticSite
