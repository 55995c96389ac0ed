import Mathlib.Data.List.Perm.Subperm
import Mathlib.Logic.Function.Iterate
import Mathlib.Logic.Relation

/-!
# Rewriting the letters of a word

Each letter of a word is rewritten into a word, all letters at once and round after round. A word
comes to rest if some round leaves it as it is (`ComesToRest`). If only some letters are rewritten
into anything else than themselves, a word that comes to rest does so within as many rounds as there
are such letters (`ComesToRest.restsBy_length`).

The letters of a word that comes to rest come to rest as well (`ComesToRest.of_mem`). Such a letter
may bring itself again, but then all it brings beside itself dies out
(`exists_split_of_mem_iterate`), so no letter brings itself by way of others
(`not_transGen_brings_self`). A letter that takes more than `n + 1` rounds brings another one that
takes more than `n` (`exists_brings_of_not_restsBy`): the letters on the way down are all different
(`lt_length_of_descent`).
-/

namespace StaticSite

/-! ## Descents -/

/-- If each element at a level above zero is followed by one at the level below, the elements passed
on the way down are all different, provided that nothing follows itself. So the level is less than
the number of elements there are. -/
theorem lt_length_of_descent {α : Type} {r : α → α → Prop} {L : Nat → α → Prop} {all : List α}
    (htrans : ∀ a b c, r a b → r b c → r a c) (hirrefl : ∀ a, ¬ r a a)
    (hstep : ∀ n a, L (n + 1) a → ∃ b, r a b ∧ L n b) (hmem : ∀ n a, L n a → a ∈ all) {n : Nat}
    {a : α} (h : L n a) : n < all.length := by
  have hchain : ∃ chain, (a :: chain).Pairwise r ∧ a :: chain ⊆ all ∧ chain.length = n := by
    induction n generalizing a with
    | zero =>
      exact ⟨[], List.pairwise_singleton _ _, List.cons_subset.mpr ⟨hmem _ _ h, List.nil_subset _⟩,
        rfl⟩
    | succ n ih =>
      obtain ⟨b, hab, hb⟩ := hstep n a h
      obtain ⟨chain, hchain, hsub, hlength⟩ := ih hb
      refine ⟨b :: chain, List.pairwise_cons.mpr ⟨fun c hc => ?_, hchain⟩,
        List.cons_subset.mpr ⟨hmem _ _ h, hsub⟩, congrArg (· + 1) hlength⟩
      rcases List.mem_cons.mp hc with rfl | hc
      · exact hab
      · exact htrans a b c hab ((List.pairwise_cons.mp hchain).1 c hc)
  obtain ⟨chain, hchain, hsub, rfl⟩ := hchain
  have hnodup : (a :: chain).Nodup := by
    refine hchain.imp fun {b c} hbc heq => ?_
    rw [heq] at hbc
    exact hirrefl c hbc
  exact (List.subperm_of_subset hnodup hsub).length_le

/-! ## Words -/

/-- The word with each letter rewritten. -/
def rewriteLetters {α : Type} (f : α → List α) (w : List α) : List α :=
  w.flatMap f

/-- The word has come to rest after `n` rounds. -/
def RestsBy {α : Type} (f : α → List α) (n : Nat) (w : List α) : Prop :=
  (rewriteLetters f)^[n + 1] w = (rewriteLetters f)^[n] w

/-- Some round leaves the word as it is. -/
def ComesToRest {α : Type} (f : α → List α) (w : List α) : Prop :=
  ∃ n, RestsBy f n w

/-- The word leaves nothing behind in the end. -/
def DiesOut {α : Type} (f : α → List α) (w : List α) : Prop :=
  ∃ n, (rewriteLetters f)^[n] w = []

variable {α : Type} {f : α → List α} {u v w : List α} {a b c : α}

/-! ## Rounds go letter by letter -/

theorem rewriteLetters_append (f : α → List α) (u v : List α) :
    rewriteLetters f (u ++ v) = rewriteLetters f u ++ rewriteLetters f v :=
  List.flatMap_append

theorem rewriteLetters_singleton (f : α → List α) (a : α) : rewriteLetters f [a] = f a :=
  List.flatMap_singleton f a

theorem iterate_rewriteLetters_append (f : α → List α) (n : Nat) (u v : List α) :
    (rewriteLetters f)^[n] (u ++ v) =
      (rewriteLetters f)^[n] u ++ (rewriteLetters f)^[n] v := by
  induction n generalizing u v with
  | zero => rfl
  | succ n ih => simp only [Function.iterate_succ_apply, rewriteLetters_append, ih]

theorem iterate_rewriteLetters_nil (f : α → List α) (n : Nat) :
    (rewriteLetters f)^[n] [] = [] :=
  Function.iterate_fixed rfl n

theorem iterate_rewriteLetters_succ_singleton (f : α → List α) (n : Nat) (a : α) :
    (rewriteLetters f)^[n + 1] [a] = (rewriteLetters f)^[n] (f a) := by
  rw [Function.iterate_succ_apply, rewriteLetters_singleton]

theorem iterate_rewriteLetters_eq_flatMap (f : α → List α) (n : Nat) (w : List α) :
    (rewriteLetters f)^[n] w = w.flatMap fun a => (rewriteLetters f)^[n] [a] := by
  induction w with
  | nil => exact iterate_rewriteLetters_nil f n
  | cons a w ih =>
    rw [List.flatMap_cons, ← ih, ← iterate_rewriteLetters_append]
    rfl

theorem mem_iterate_of_mem {n : Nat} (ha : a ∈ w) (hb : b ∈ (rewriteLetters f)^[n] [a]) :
    b ∈ (rewriteLetters f)^[n] w := by
  rw [iterate_rewriteLetters_eq_flatMap]
  exact List.mem_flatMap.mpr ⟨a, ha, hb⟩

/-! ## Resting -/

theorem RestsBy.iterate_eq {m n : Nat} (h : RestsBy f n w) (hle : n ≤ m) :
    (rewriteLetters f)^[m] w = (rewriteLetters f)^[n] w := by
  obtain ⟨d, rfl⟩ := Nat.exists_eq_add_of_le' hle
  rw [Function.iterate_add_apply]
  exact Function.iterate_fixed (by rwa [RestsBy, Function.iterate_succ_apply'] at h) d

theorem RestsBy.mono {m n : Nat} (h : RestsBy f n w) (hle : n ≤ m) : RestsBy f m w := by
  rw [RestsBy, h.iterate_eq hle, h.iterate_eq (Nat.le_succ_of_le hle)]

theorem RestsBy.of_fixed (h : f a = [a]) (n : Nat) : RestsBy f n [a] := by
  have hzero : RestsBy f 0 [a] := h ▸ rewriteLetters_singleton f a
  exact hzero.mono (Nat.zero_le n)

theorem RestsBy.of_forall {n : Nat} (h : ∀ a ∈ w, RestsBy f n [a]) : RestsBy f n w := by
  rw [RestsBy, iterate_rewriteLetters_eq_flatMap, iterate_rewriteLetters_eq_flatMap f n]
  exact List.flatMap_congr h

theorem RestsBy.succ_singleton {n : Nat} (h : RestsBy f n (f a)) : RestsBy f (n + 1) [a] := by
  rw [RestsBy, iterate_rewriteLetters_succ_singleton, iterate_rewriteLetters_succ_singleton]
  exact h

theorem ComesToRest.of_iterate {n : Nat} (h : ComesToRest f ((rewriteLetters f)^[n] w)) :
    ComesToRest f w := by
  obtain ⟨m, hm⟩ := h
  refine ⟨m + n, ?_⟩
  rw [RestsBy, Nat.add_right_comm, Function.iterate_add_apply _ (m + 1),
    Function.iterate_add_apply _ m n]
  exact hm

theorem isPrefix_iterate_rewriteLetters (h : u <+: v) (n : Nat) :
    (rewriteLetters f)^[n] u <+: (rewriteLetters f)^[n] v := by
  obtain ⟨rest, rfl⟩ := h
  rw [iterate_rewriteLetters_append]
  exact List.prefix_append _ _

/-- Natural numbers do not decrease for ever. -/
theorem exists_le_succ (g : Nat → Nat) : ∃ n, g n ≤ g (n + 1) := by
  induction hzero : g 0 using Nat.strongRecOn generalizing g with
  | ind k ih =>
    by_cases hle : g 0 ≤ g 1
    · exact ⟨0, hle⟩
    · obtain ⟨n, hn⟩ := ih (g 1) (by omega) (fun n => g (n + 1)) rfl
      exact ⟨n + 1, hn⟩

theorem exists_succ_le_of_bounded {g : Nat → Nat} {bound : Nat} (h : ∀ n, g n ≤ bound) :
    ∃ n, g (n + 1) ≤ g n := by
  obtain ⟨n, hn⟩ := exists_le_succ fun n => bound - g n
  have hbound := h (n + 1)
  exact ⟨n, by omega⟩

/-- A word that stays a prefix of one and the same word grows all the time or shrinks all the time,
and neither can go on for ever. -/
theorem comesToRest_of_isPrefix (h : ∀ n, (rewriteLetters f)^[n] u <+: w) : ComesToRest f u := by
  rcases List.prefix_or_prefix_of_prefix (h 0) (h 1) with hgrows | hshrinks
  · obtain ⟨n, hn⟩ := exists_succ_le_of_bounded fun n => (h n).length_le
    exact ⟨n, ((isPrefix_iterate_rewriteLetters hgrows n).eq_of_length_le hn).symm⟩
  · obtain ⟨n, hn⟩ := exists_le_succ fun n => ((rewriteLetters f)^[n] u).length
    exact ⟨n, (isPrefix_iterate_rewriteLetters hshrinks n).eq_of_length_le hn⟩

theorem ComesToRest.of_append_left (h : ComesToRest f (u ++ v)) : ComesToRest f u := by
  obtain ⟨n, hn⟩ := h
  have hpart : ∀ m, (rewriteLetters f)^[m] ((rewriteLetters f)^[n] u) <+:
      (rewriteLetters f)^[n] (u ++ v) := by
    intro m
    rw [← Function.iterate_add_apply, ← hn.iterate_eq (Nat.le_add_left n m)]
    exact isPrefix_iterate_rewriteLetters (List.prefix_append u v) _
  exact (comesToRest_of_isPrefix hpart).of_iterate

theorem ComesToRest.of_append_right (h : ComesToRest f (u ++ v)) : ComesToRest f v := by
  obtain ⟨m, hm⟩ := h.of_append_left
  obtain ⟨n, hn⟩ := h
  refine ⟨m + n, ?_⟩
  have hsame := hn.mono (Nat.le_add_left n m)
  rw [RestsBy, iterate_rewriteLetters_append, iterate_rewriteLetters_append,
    hm.mono (Nat.le_add_right m n)] at hsame
  exact List.append_cancel_left hsame

theorem ComesToRest.of_mem (h : ComesToRest f w) (ha : a ∈ w) : ComesToRest f [a] := by
  obtain ⟨u, v, rfl⟩ := List.append_of_mem ha
  exact (h.of_append_right (v := a :: v)).of_append_left (u := [a])

theorem ComesToRest.rewritten (h : ComesToRest f [a]) : ComesToRest f (f a) := by
  obtain ⟨n, hn⟩ := h
  refine ⟨n, ?_⟩
  rw [RestsBy, ← iterate_rewriteLetters_succ_singleton, ← iterate_rewriteLetters_succ_singleton]
  exact hn.mono (Nat.le_succ n)

/-! ## Dying out -/

theorem DiesOut.exists_forall (h : DiesOut f w) :
    ∃ n, ∀ m, n ≤ m → (rewriteLetters f)^[m] w = [] := by
  obtain ⟨n, hn⟩ := h
  refine ⟨n, fun m hle => ?_⟩
  obtain ⟨d, rfl⟩ := Nat.exists_eq_add_of_le' hle
  rw [Function.iterate_add_apply, hn]
  exact iterate_rewriteLetters_nil f d

theorem DiesOut.of_mem (h : DiesOut f w) (ha : a ∈ w) : DiesOut f [a] := by
  obtain ⟨n, hn⟩ := h
  refine ⟨n, List.eq_nil_iff_forall_not_mem.mpr fun b hb => ?_⟩
  have hmem := mem_iterate_of_mem ha hb
  rw [hn] at hmem
  exact absurd hmem List.not_mem_nil

theorem DiesOut.iterate (h : DiesOut f w) (n : Nat) : DiesOut f ((rewriteLetters f)^[n] w) := by
  obtain ⟨m, hm⟩ := h.exists_forall
  refine ⟨m, ?_⟩
  rw [← Function.iterate_add_apply]
  exact hm _ (Nat.le_add_right m n)

/-- A word that dies out and has come to rest is gone. -/
theorem DiesOut.iterate_eq_nil {n : Nat} (h : DiesOut f w) (hn : RestsBy f n w) :
    (rewriteLetters f)^[n] w = [] := by
  obtain ⟨m, hm⟩ := h.exists_forall
  rw [← hn.iterate_eq (Nat.le_max_left n m)]
  exact hm _ (Nat.le_max_right n m)

/-! ## Letters that bring themselves -/

theorem mem_iterate_mul {d : Nat} (h : c ∈ (rewriteLetters f)^[d] [c]) (k : Nat) :
    c ∈ (rewriteLetters f)^[k * d] [c] := by
  induction k with
  | zero =>
    rw [Nat.zero_mul]
    exact List.mem_singleton_self c
  | succ k ih =>
    rw [Nat.succ_mul, Function.iterate_add_apply]
    exact mem_iterate_of_mem h ih

/-- A letter that brings itself does not die out. -/
theorem not_diesOut_of_mem_iterate {d : Nat} (hd : 0 < d)
    (h : c ∈ (rewriteLetters f)^[d] [c]) : ¬ DiesOut f [c] := by
  intro hdies
  obtain ⟨n, hn⟩ := hdies.exists_forall
  have hmem := mem_iterate_mul h n
  rw [hn _ (Nat.le_mul_of_pos_right n hd)] at hmem
  exact absurd hmem List.not_mem_nil

/-- If a letter that comes to rest brings itself, what it brings beside itself dies out. -/
theorem diesOut_beside {n : Nat} (hrest : ComesToRest f [c])
    (h : (rewriteLetters f)^[n] [c] = u ++ c :: v) : DiesOut f u ∧ DiesOut f v := by
  obtain ⟨m, hm⟩ := hrest
  have hcons : u ++ c :: v = u ++ ([c] ++ v) := rfl
  have hsame := hm.iterate_eq (Nat.le_add_right m n)
  rw [Function.iterate_add_apply, h, hcons, iterate_rewriteLetters_append,
    iterate_rewriteLetters_append] at hsame
  have hlength := congrArg List.length hsame
  rw [List.length_append, List.length_append] at hlength
  exact ⟨⟨m, List.length_eq_zero_iff.mp (by omega)⟩, ⟨m, List.length_eq_zero_iff.mp (by omega)⟩⟩

open Classical in
/-- If a round leaves a word as it is and all letters but one die out in the end, that one is
rewritten into itself and letters that die out. -/
theorem exists_split_of_fixed {x y : List α} (hx : DiesOut f x) (hy : DiesOut f y)
    (halive : ¬ DiesOut f [c]) (hfixed : rewriteLetters f (x ++ c :: y) = x ++ c :: y) :
    ∃ u v, f c = u ++ c :: v ∧ (∀ b ∈ u, DiesOut f [b]) ∧ ∀ b ∈ v, DiesOut f [b] := by
  have hdead : ∀ {s : List α}, DiesOut f s → s.filter (fun b => ¬ DiesOut f [b]) = [] := by
    intro s hs
    refine List.filter_eq_nil_iff.mpr fun b hb => ?_
    simpa using hs.of_mem hb
  have hx' : DiesOut f (rewriteLetters f x) := hx.iterate 1
  have hy' : DiesOut f (rewriteLetters f y) := hy.iterate 1
  have hcons : x ++ c :: y = x ++ ([c] ++ y) := rfl
  -- both sides of `hfixed` have the same letters that stay alive
  have hfilter := congrArg (List.filter fun b => ¬ DiesOut f [b]) hfixed
  rw [hcons, rewriteLetters_append, rewriteLetters_append, rewriteLetters_singleton,
    List.filter_append, List.filter_append, List.filter_append, List.filter_append, hdead hx,
    hdead hy, hdead hx', hdead hy'] at hfilter
  have honly : (f c).filter (fun b => ¬ DiesOut f [b]) = [c] := by simpa [halive] using hfilter
  obtain ⟨u, v, heq, hu, -, hv⟩ := List.filter_eq_cons_iff.mp honly
  exact ⟨u, v, heq, fun b hb => by simpa using hu b hb,
    fun b hb => by simpa using List.filter_eq_nil_iff.mp hv b hb⟩

/-- If a letter that comes to rest brings itself, it does so at once and is the only letter in its
place that does not die out. -/
theorem exists_split_of_mem_iterate {d : Nat} (hd : 0 < d) (hrest : ComesToRest f [c])
    (h : c ∈ (rewriteLetters f)^[d] [c]) :
    ∃ u v, f c = u ++ c :: v ∧ (∀ b ∈ u, DiesOut f [b]) ∧ ∀ b ∈ v, DiesOut f [b] := by
  obtain ⟨n, hn⟩ := hrest
  -- after `n * d` rounds the word has come to rest and has the letter again
  have hle : n ≤ n * d := Nat.le_mul_of_pos_right n hd
  obtain ⟨x, y, hxy⟩ := List.append_of_mem (mem_iterate_mul h n)
  obtain ⟨hx, hy⟩ := diesOut_beside ⟨n, hn⟩ hxy
  have hfixed := hn.mono hle
  rw [RestsBy, Function.iterate_succ_apply', hxy] at hfixed
  exact exists_split_of_fixed hx hy (not_diesOut_of_mem_iterate hd h) hfixed

/-- The letter comes to rest and brings another one. -/
def Brings (f : α → List α) (a b : α) : Prop :=
  ComesToRest f [a] ∧ b ∈ f a ∧ b ≠ a

theorem mem_iterate_of_reflTransGen (h : Relation.ReflTransGen (Brings f) a b) :
    ∃ n, b ∈ (rewriteLetters f)^[n] [a] := by
  induction h with
  | refl => exact ⟨0, List.mem_singleton_self a⟩
  | tail _ hbc ih =>
    obtain ⟨n, hn⟩ := ih
    refine ⟨n + 1, ?_⟩
    rw [Function.iterate_succ_apply']
    exact List.mem_flatMap.mpr ⟨_, hn, hbc.2.1⟩

/-- A letter that comes to rest does not bring itself by way of others. -/
theorem not_transGen_brings_self (a : α) : ¬ Relation.TransGen (Brings f) a a := by
  intro h
  obtain ⟨b, ⟨hrest, hb, hne⟩, hback⟩ := Relation.TransGen.head'_iff.mp h
  obtain ⟨n, hn⟩ := mem_iterate_of_reflTransGen hback
  have hself : a ∈ (rewriteLetters f)^[n + 1] [a] := by
    rw [iterate_rewriteLetters_succ_singleton]
    exact mem_iterate_of_mem hb hn
  obtain ⟨u, v, hsplit, hu, hv⟩ := exists_split_of_mem_iterate (Nat.succ_pos n) hrest hself
  have hdies : DiesOut f [b] := by
    rw [hsplit] at hb
    rcases List.mem_append.mp hb with hb | hb
    · exact hu b hb
    · exact hv b ((List.mem_cons.mp hb).resolve_left hne)
  -- `a` comes from `b`, so it would die out with it
  exact not_diesOut_of_mem_iterate (Nat.succ_pos n) hself ((hdies.iterate n).of_mem hn)

/-! ## Letters that take long -/

/-- Letters that die out and have all come to rest leave nothing. -/
theorem iterate_eq_nil_of_forall {n : Nat} (hdies : ∀ a ∈ w, DiesOut f [a])
    (h : ∀ a ∈ w, RestsBy f n [a]) : (rewriteLetters f)^[n] w = [] := by
  rw [iterate_rewriteLetters_eq_flatMap]
  exact List.flatMap_eq_nil_iff.mpr fun a ha => (hdies a ha).iterate_eq_nil (h a ha)

/-- A letter that brings itself rests as soon as all that it brings beside itself does. -/
theorem restsBy_of_mem_self {n : Nat} (hrest : ComesToRest f [a]) (hself : a ∈ f a)
    (h : ∀ b ∈ f a, b ≠ a → RestsBy f n [b]) : RestsBy f n [a] := by
  have hone : a ∈ (rewriteLetters f)^[1] [a] := by
    rwa [iterate_rewriteLetters_succ_singleton]
  obtain ⟨u, v, hsplit, hu, hv⟩ := exists_split_of_mem_iterate Nat.one_pos hrest hone
  have halive := not_diesOut_of_mem_iterate Nat.one_pos hone
  have hbeside : ∀ {s : List α}, s ⊆ f a → (∀ b ∈ s, DiesOut f [b]) →
      (rewriteLetters f)^[n] s = [] := by
    intro s hsub hdies
    refine iterate_eq_nil_of_forall hdies fun b hb => h b (hsub hb) fun heq => ?_
    exact halive (heq ▸ hdies b hb)
  have hu' : (rewriteLetters f)^[n] u = [] := hbeside (by simp [hsplit]) hu
  have hv' : (rewriteLetters f)^[n] v = [] := hbeside (by simp [hsplit]) hv
  have hcons : u ++ a :: v = u ++ ([a] ++ v) := rfl
  rw [RestsBy, iterate_rewriteLetters_succ_singleton, hsplit, hcons,
    iterate_rewriteLetters_append, iterate_rewriteLetters_append, hu', hv', List.nil_append,
    List.append_nil]

/-- A letter that takes more than `n + 1` rounds brings another one that takes more than `n`. -/
theorem exists_brings_of_not_restsBy {n : Nat} (hrest : ComesToRest f [a])
    (h : ¬ RestsBy f (n + 1) [a]) : ∃ b, Brings f a b ∧ ¬ RestsBy f n [b] := by
  by_contra hnone
  have hall : ∀ b ∈ f a, b ≠ a → RestsBy f n [b] := by
    intro b hb hne
    by_contra hlate
    exact hnone ⟨b, ⟨hrest, hb, hne⟩, hlate⟩
  by_cases hself : a ∈ f a
  · exact h ((restsBy_of_mem_self hrest hself hall).mono (Nat.le_succ n))
  · refine h (RestsBy.of_forall fun b hb => hall b hb fun heq => ?_).succ_singleton
    exact hself (heq ▸ hb)

/-- A word that comes to rest does so within as many rounds as there are letters that change. -/
theorem ComesToRest.restsBy_length {changing : List α} (h : ComesToRest f w)
    (hchanging : ∀ a, f a ≠ [a] → a ∈ changing) : RestsBy f changing.length w := by
  refine .of_forall fun a ha => ?_
  by_contra hlate
  have hstep : ∀ n a, ComesToRest f [a] ∧ ¬ RestsBy f (n + 1) [a] →
      ∃ b, Relation.TransGen (Brings f) a b ∧ ComesToRest f [b] ∧ ¬ RestsBy f n [b] := by
    rintro n a ⟨hrest, hlate⟩
    obtain ⟨b, hab, hlate⟩ := exists_brings_of_not_restsBy hrest hlate
    exact ⟨b, .single hab, hrest.rewritten.of_mem hab.2.1, hlate⟩
  have hmem : ∀ n a, ComesToRest f [a] ∧ ¬ RestsBy f n [a] → a ∈ changing :=
    fun n a ⟨_, hlate⟩ => hchanging a fun hfixed => hlate (.of_fixed hfixed n)
  exact Nat.lt_irrefl _ (lt_length_of_descent (fun _ _ _ => Relation.TransGen.trans)
    not_transGen_brings_self hstep hmem ⟨h.of_mem ha, hlate⟩)

end StaticSite
