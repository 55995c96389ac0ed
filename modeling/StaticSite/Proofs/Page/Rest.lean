import StaticSite.Proofs.Page.Acyclic

/-!
# Texts that come to rest

A well-formed text is a row of tokens (`tokens`), and a round rewrites each of them by itself
(`Page.tokens_fillPage`): the tokens of a text are the letters of a word. Only placeholders of
entries are rewritten into anything else than themselves, so a well-formed text that comes to rest
at all does so within as many rounds as the page has entries (`Page.rests_of_comesToRest`). That
holds for values that refer to themselves as well, as `#{post-title}` may in the title.

So for well-formed texts and values that come to rest the limit of settling is no limit
(`Page.settlesExactly_iff`).
-/

namespace StaticSite

/-- A part of a text: a placeholder, or a character that begins none. -/
inductive Token
  /-- A character. -/
  | char (c : Char)
  /-- A placeholder. -/
  | placeholder (p : Placeholder)
  deriving DecidableEq

/-- What the token is written as. -/
def Token.text : Token → Text
  | char c => [c]
  | placeholder p => p.raw

/-- The tokens of a text. Inside of a placeholder none is looked for. -/
def tokens : Text → List Token
  | [] => []
  | c :: t =>
    match _h : Placeholder.atStart? (c :: t) with
    | none => .char c :: tokens t
    | some (p, rest) => .placeholder p :: tokens rest
termination_by t => t.length
decreasing_by
  · exact Nat.lt_succ_self _
  · exact Placeholder.length_lt_of_atStart? ‹_›

section Tokens

variable {c : Char} {s t rest : Text} {p : Placeholder}

theorem tokens_nil : tokens [] = [] := by
  rw [tokens]

theorem tokens_cons_none (h : Placeholder.atStart? (c :: t) = none) :
    tokens (c :: t) = .char c :: tokens t := by
  rw [tokens]
  split
  · rfl
  · next h' =>
    rw [h] at h'
    cases h'

theorem tokens_of_atStart? (h : Placeholder.atStart? t = some (p, rest)) :
    tokens t = .placeholder p :: tokens rest := by
  cases t with
  | nil => cases h
  | cons c t =>
    rw [tokens]
    split
    · next h' =>
      rw [h] at h'
      cases h'
    · next h' =>
      rw [h] at h'
      obtain ⟨rfl, rfl⟩ := Prod.mk.inj (Option.some.inj h')
      rfl

/-- The tokens make up the text. -/
theorem flatMap_text_tokens (t : Text) : (tokens t).flatMap Token.text = t := by
  induction t using tokens.induct with
  | case1 => rw [tokens_nil]; rfl
  | case2 c t h ih =>
    rw [tokens_cons_none h, List.flatMap_cons, ih]
    rfl
  | case3 c t p rest h ih =>
    rw [tokens_of_atStart? h, List.flatMap_cons, ih]
    exact (Placeholder.atStart?_eq_some_iff.mp h).2.symm

theorem tokens_injective (h : tokens s = tokens t) : s = t := by
  rw [← flatMap_text_tokens s, h, flatMap_text_tokens]

theorem tokens_cons_plain (hc : isSigil c = false) (t : Text) :
    tokens (c :: t) = .char c :: tokens t :=
  tokens_cons_none (atStart?_of_not_sigil hc t)

theorem tokens_cons_lone {d : Char} (hd : isSigil d = false) (hb : d ≠ '{') (c : Char) (t : Text) :
    tokens (c :: d :: t) = .char c :: .char d :: tokens t := by
  rw [tokens_cons_none (atStart?_of_not_brace hb c t), tokens_cons_plain hd]

theorem tokens_raw_append (hp : p.Plain) (t : Text) :
    tokens (p.raw ++ t) = .placeholder p :: tokens t :=
  tokens_of_atStart? (hp.atStart?_raw t)

theorem WellFormed.tokens_append (hs : WellFormed s) (t : Text) :
    tokens (s ++ t) = tokens s ++ tokens t := by
  have h := hs.pieces
  clear hs
  induction h with
  | nil => rw [tokens_nil]; rfl
  | plain hc _ ih =>
    rw [List.cons_append, tokens_cons_plain hc, tokens_cons_plain hc, ih, List.cons_append]
  | lone hc hd hb _ ih =>
    rw [List.cons_append, List.cons_append, tokens_cons_lone hd hb, tokens_cons_lone hd hb, ih,
      List.cons_append, List.cons_append]
  | placeholder hp _ ih =>
    rw [List.append_assoc, tokens_raw_append hp, tokens_raw_append hp, ih, List.cons_append]

end Tokens

namespace Page

/-- What a round makes of a token. -/
def fillToken (p : Page) : Token → List Token
  | .char c => [.char c]
  | .placeholder q => if (p.value? q).isSome then tokens (p.fillPage q.raw) else [.placeholder q]

theorem tokens_fillPage_raw (p : Page) {q : Placeholder} (hq : q.Plain) :
    tokens (p.fillPage q.raw) = p.fillToken (.placeholder q) := by
  by_cases hentry : (p.value? q).isSome
  · rw [fillToken, if_pos hentry]
  · have hself : p.fillPage q.raw = q.raw := by
      refine fillPage_eq_self fun r hr => ?_
      rw [placeholders_raw hq, List.mem_singleton] at hr
      rw [hr]
      exact Option.not_isSome_iff_eq_none.mp hentry
    have hraw := tokens_raw_append hq []
    rw [List.append_nil, tokens_nil] at hraw
    rw [fillToken, if_neg hentry, hself, hraw]

section Rounds

variable {p : Page} {s t : Text} (hp : ∀ value ∈ p.values, WellFormed value)

include hp

theorem fillPage_append (hs : WellFormed s) (t : Text) :
    p.fillPage (s ++ t) = p.fillPage s ++ p.fillPage t := by
  rw [fillPage, fillVariables, hs.substitute_append]
  exact (wellFormed_fillVariables hp hs).substitute_append _ _

theorem fillPage_inert_append (hs : Inert s) (t : Text) :
    p.fillPage (s ++ t) = s ++ p.fillPage t := by
  rw [fillPage_append hp hs.wellFormed, fillPage_eq_self fun q hq => ?_]
  exact (hs.forall_placeholders q hq).elim

/-- A round rewrites each token by itself. -/
theorem tokens_fillPage (ht : WellFormed t) :
    tokens (p.fillPage t) = rewriteLetters p.fillToken (tokens t) := by
  have h := ht.pieces
  clear ht
  induction h with
  | nil => rw [fillPage_eq_self fun q hq => absurd hq List.not_mem_nil, tokens_nil]; rfl
  | @plain c t hc _ ih =>
    have hinert : Inert [c] := .of_plain fun d hd => List.mem_singleton.mp hd ▸ hc
    have hround : p.fillPage (c :: t) = c :: p.fillPage t := fillPage_inert_append hp hinert t
    rw [hround, tokens_cons_plain hc, tokens_cons_plain hc, ih]
    rfl
  | @lone c d t hc hd hb _ ih =>
    have hinert : Inert [c, d] := by
      refine ⟨(Pieces.lone hc hd hb .nil).wellFormed, fun q hq => ?_⟩
      rw [placeholders_cons_lone hd hb] at hq
      exact absurd hq List.not_mem_nil
    have hround : p.fillPage (c :: d :: t) = c :: d :: p.fillPage t :=
      fillPage_inert_append hp hinert t
    rw [hround, tokens_cons_lone hd hb, tokens_cons_lone hd hb, ih]
    rfl
  | @placeholder q t hq _ ih =>
    have hraw := WellFormed.raw hq
    rw [fillPage_append hp hraw, (wellFormed_fillPage hp hraw).tokens_append, ih,
      p.tokens_fillPage_raw hq, tokens_raw_append hq]
    rfl

theorem tokens_iterate_fillPage (ht : WellFormed t) (n : Nat) :
    tokens (p.fillPage^[n] t) = (rewriteLetters p.fillToken)^[n] (tokens t) := by
  induction n with
  | zero => rfl
  | succ n ih =>
    rw [Function.iterate_succ_apply', Function.iterate_succ_apply', ← ih]
    exact tokens_fillPage hp (wellFormed_iterate_fillPage hp ht n)

theorem restsBy_tokens_iff (ht : WellFormed t) {n : Nat} :
    RestsBy p.fillToken n (tokens t) ↔ p.fillPage^[n + 1] t = p.fillPage^[n] t := by
  rw [RestsBy, ← tokens_iterate_fillPage hp ht, ← tokens_iterate_fillPage hp ht]
  exact ⟨tokens_injective, congrArg tokens⟩

/-- A text that comes to rest does so within as many rounds as the page has entries. -/
theorem rests_of_comesToRest (ht : WellFormed t)
    (hrest : ∃ n, p.fillPage^[n + 1] t = p.fillPage^[n] t) :
    p.fillPage^[p.entries.length + 1] t = p.fillPage^[p.entries.length] t := by
  obtain ⟨n, hn⟩ := hrest
  have htokens : ComesToRest p.fillToken (tokens t) := ⟨n, (restsBy_tokens_iff hp ht).mpr hn⟩
  have hchanging : ∀ a, p.fillToken a ≠ [a] → a ∈ p.entries.map Token.placeholder := by
    intro a ha
    cases a with
    | char c => exact absurd rfl ha
    | placeholder q =>
      by_cases hentry : (p.value? q).isSome
      · exact List.mem_map.mpr ⟨q, mem_entries hentry, rfl⟩
      · exact absurd (if_neg hentry) ha
  have hsoon := htokens.restsBy_length hchanging
  rw [List.length_map] at hsoon
  exact (restsBy_tokens_iff hp ht).mp hsoon

end Rounds

/-- Settling reports a circle exactly for the texts that never settle, and otherwise gives the first
settled text, if and only if no text that settles needs more rounds than there may be. A well-formed
text with well-formed values that comes to rest at all does not. -/
theorem settlesExactly_iff (p : Page) (name t : Text) :
    (p.SettlesExactly name t ↔ ∀ n, p.SettlesAfter t n → p.Suffices t p.roundLimit n) ∧
      (WellFormed t → (∀ value ∈ p.values, WellFormed value) →
        (∃ n, p.fillPage^[n + 1] t = p.fillPage^[n] t) → p.SettlesExactly name t) := by
  refine ⟨settlesExactly_iff_suffices, fun ht hp hrest => settlesExactly_of_lt ?_⟩
  have hfixed := rests_of_comesToRest hp ht hrest
  rw [Function.iterate_succ_apply'] at hfixed
  refine ⟨p.entries.length, ?_, .inr hfixed⟩
  rw [length_entries]
  exact Nat.lt_succ_self _

/-- A title that refers to itself and says nothing else comes to rest all the same. -/
theorem settlesExactly_iff_self_reference :
    let p : Page := { title := "#{post-title}".toList, date := "1".toList }
    WellFormed "#{post-title} #{post-date}".toList ∧ (∀ value ∈ p.values, WellFormed value) ∧
      (∃ n, p.fillPage^[n + 1] "#{post-title} #{post-date}".toList =
        p.fillPage^[n] "#{post-title} #{post-date}".toList) ∧
      p.SettlesExactly "p".toList "#{post-title} #{post-date}".toList := by
  intro p
  have ht : WellFormed "#{post-title} #{post-date}".toList := by decide
  have hp : ∀ value ∈ p.values, WellFormed value := by decide
  have hrest : p.fillPage^[1 + 1] "#{post-title} #{post-date}".toList =
      p.fillPage^[1] "#{post-title} #{post-date}".toList := by decide
  exact ⟨ht, hp, ⟨1, hrest⟩, (p.settlesExactly_iff _ _).2 ht hp ⟨1, hrest⟩⟩

end Page

end StaticSite
