import StaticSite.Build.Error
import StaticSite.Build.Log

/-!
# Outcomes

An `Outcome` is what a step of a build leaves: the log it wrote, and its result or the error that
stopped it. A failed step keeps the log it wrote before it failed.

A `Stage` is a step that also changes a state. The state it leaves counts whether it failed or not,
so what was read or written before an error stays read or written.
-/

namespace StaticSite

/-- The log and the result of a step. -/
structure Outcome (α : Type) where
  /-- What the step reported, in order. -/
  log : List LogEntry
  /-- The result, or why there is none. -/
  result : Except BuildError α

namespace Outcome

variable {α β : Type}

/-- A silent step with a result. -/
def ok (a : α) : Outcome α := ⟨[], .ok a⟩

/-- A silent step that fails. -/
def fail (e : BuildError) : Outcome α := ⟨[], .error e⟩

/-- A silent step. -/
def ofExcept (r : Except BuildError α) : Outcome α := ⟨[], r⟩

/-- A step that only reports an event. -/
def note (e : LogEntry) : Outcome Unit := ⟨[e], .ok ()⟩

/-- One step after the other; a failed one is the last one. -/
def andThen (x : Outcome α) (f : α → Outcome β) : Outcome β :=
  match x.result with
  | .error e => ⟨x.log, .error e⟩
  | .ok a => ⟨x.log ++ (f a).log, (f a).result⟩

instance : Monad Outcome where
  pure := ok
  bind := andThen

@[simp]
theorem pure_eq (a : α) : (pure a : Outcome α) = ok a := rfl

@[simp]
theorem bind_eq (x : Outcome α) (f : α → Outcome β) : x >>= f = x.andThen f := rfl

@[simp]
theorem ok_andThen (a : α) (f : α → Outcome β) : (ok a).andThen f = f a := rfl

@[simp]
theorem fail_andThen (e : BuildError) (f : α → Outcome β) : (fail e).andThen f = fail e := rfl

theorem andThen_ok (x : Outcome α) : (x.andThen fun a => ok a) = x := by
  rcases x with ⟨log, result⟩
  cases result with
  | error e => rfl
  | ok a => exact congrArg (Outcome.mk · _) (List.append_nil log)

theorem andThen_assoc {γ : Type} (x : Outcome α) (f : α → Outcome β) (g : β → Outcome γ) :
    (x.andThen f).andThen g = x.andThen fun a => (f a).andThen g := by
  unfold andThen
  cases x.result with
  | error e => rfl
  | ok a =>
    cases h : (f a).result with
    | error e => simp [h]
    | ok b => simp [h]

@[simp]
theorem result_note (e : LogEntry) : (note e).result = .ok () := rfl

/-- The result of two steps does not depend on their logs. -/
theorem result_andThen (x : Outcome α) (f : α → Outcome β) :
    (x.andThen f).result = x.result.bind fun a => (f a).result := by
  unfold andThen
  cases h : x.result <;> rfl

/-- Two steps have a result if both of them do. -/
theorem result_andThen_eq_ok_iff {x : Outcome α} {f : α → Outcome β} {b : β} :
    (x.andThen f).result = .ok b ↔ ∃ a, x.result = .ok a ∧ (f a).result = .ok b := by
  rw [result_andThen]
  cases x.result with
  | error e => simp [Except.bind]
  | ok a => simp [Except.bind]

end Outcome

/-- A step that reads and changes a state. -/
def Stage (σ α : Type) := σ → Outcome α × σ

namespace Stage

variable {σ α β : Type}

/-- Runs a step on a state. -/
def run (x : Stage σ α) (s : σ) : Outcome α × σ := x s

/-- A step that leaves the state as it is. -/
def lift (x : Outcome α) : Stage σ α := fun s => (x, s)

/-- One step after the other; a failed one is the last one. -/
def andThen (x : Stage σ α) (f : α → Stage σ β) : Stage σ β := fun s =>
  match x s with
  | (⟨log, .error e⟩, s) => (⟨log, .error e⟩, s)
  | (⟨log, .ok a⟩, s) =>
    let (y, s) := f a s
    (⟨log ++ y.log, y.result⟩, s)

instance : Monad (Stage σ) where
  pure a := lift (.ok a)
  bind := andThen

instance : MonadLift Outcome (Stage σ) := ⟨lift⟩

/-- The state. -/
def get : Stage σ σ := fun s => (.ok s, s)

/-- Puts a state in place of the one there is. -/
def set (s : σ) : Stage σ Unit := fun _ => (.ok (), s)

/-- Changes the state by a function. -/
def modify (f : σ → σ) : Stage σ Unit := fun s => (.ok (), f s)

/-- A step that fails. -/
def fail (e : BuildError) : Stage σ α := lift (.fail e)

/-- A step with a change of the state for the case that it fails. -/
def onFailure (x : Stage σ α) (f : σ → σ) : Stage σ α := fun s =>
  match x s with
  | (⟨log, .error e⟩, s) => (⟨log, .error e⟩, f s)
  | done => done

/-- A step on a part of the state. -/
def onPart {τ : Type} (part : σ → τ) (put : τ → σ → σ) (x : Stage τ α) : Stage σ α := fun s =>
  let (y, t) := x (part s)
  (y, put t s)

/-- Reports an event. -/
def note (e : LogEntry) : Stage σ Unit := lift (.note e)

/-! ## Results and states -/

@[simp]
theorem run_pure (a : α) (s : σ) : (pure a : Stage σ α).run s = (.ok a, s) := rfl

@[simp]
theorem run_lift (x : Outcome α) (s : σ) : (lift x).run s = (x, s) := rfl

@[simp]
theorem run_get (s : σ) : (get : Stage σ σ).run s = (.ok s, s) := rfl

@[simp]
theorem run_modify (f : σ → σ) (s : σ) : (modify f).run s = (.ok (), f s) := rfl

@[simp]
theorem run_note (e : LogEntry) (s : σ) : (note e : Stage σ Unit).run s = (.note e, s) := rfl

@[simp]
theorem run_onFailure (x : Stage σ α) (f : σ → σ) (s : σ) :
    (onFailure x f).run s = ((x.run s).1,
      match (x.run s).1.result with
      | .error _ => f (x.run s).2
      | .ok _ => (x.run s).2) := by
  show onFailure x f s = _
  unfold onFailure run
  rcases x s with ⟨⟨log, result⟩, t⟩
  cases result <;> rfl

@[simp]
theorem run_get_bind (f : σ → Stage σ β) (s : σ) : (get >>= f).run s = (f s).run s := rfl

@[simp]
theorem run_modify_bind (g : σ → σ) (f : Unit → Stage σ β) (s : σ) :
    (modify g >>= f).run s = (f ()).run (g s) := rfl

/-- Steps can be grouped in any way, also when some of them fail. -/
instance : LawfulMonad (Stage σ) :=
  LawfulMonad.mk' (Stage σ)
    (fun x => by
      funext s
      show andThen x (fun a => lift (.ok a)) s = x s
      unfold andThen lift
      rcases x s with ⟨⟨log, result⟩, t⟩
      cases result with
      | error e => rfl
      | ok a => simp [Outcome.ok])
    (fun _ _ => rfl)
    (fun x f g => by
      funext s
      show andThen (andThen x f) g s = andThen x (fun a => andThen (f a) g) s
      unfold andThen
      rcases x s with ⟨⟨log, result⟩, t⟩
      cases result with
      | error e => rfl
      | ok a =>
        simp only
        rcases f a t with ⟨⟨log', result'⟩, t'⟩
        cases result' with
        | error e => rfl
        | ok b => simp)

theorem lift_andThen (x : Outcome α) (f : α → Outcome β) :
    (lift (x.andThen f) : Stage σ β) = lift x >>= fun a => lift (f a) := by
  funext s
  show _ = andThen (lift x) (fun a => lift (f a)) s
  unfold Outcome.andThen andThen lift
  rcases x with ⟨log, result⟩
  cases result <;> rfl

theorem outcome_bind (x : Stage σ α) (f : α → Stage σ β) (s : σ) :
    ((x >>= f).run s).1 = (x.run s).1.andThen fun a => ((f a).run (x.run s).2).1 := by
  show (andThen x f s).1 = _
  unfold andThen run
  rcases x s with ⟨⟨log, result⟩, t⟩
  cases result <;> rfl

/-- The result of two steps does not depend on their logs. -/
theorem result_bind (x : Stage σ α) (f : α → Stage σ β) (s : σ) :
    ((x >>= f).run s).1.result =
      (x.run s).1.result.bind fun a => ((f a).run (x.run s).2).1.result := by
  show (andThen x f s).1.result = _
  unfold andThen run
  rcases x s with ⟨⟨log, result⟩, t⟩
  cases result <;> rfl

/-- A failed step leaves the state for the steps that do not come. -/
theorem state_bind (x : Stage σ α) (f : α → Stage σ β) (s : σ) :
    ((x >>= f).run s).2 =
      match (x.run s).1.result with
      | .error _ => (x.run s).2
      | .ok a => ((f a).run (x.run s).2).2 := by
  show (andThen x f s).2 = _
  unfold andThen run
  rcases x s with ⟨⟨log, result⟩, t⟩
  cases result <;> rfl

/-- Nothing comes after a step that fails. -/
theorem run_bind_of_failed {x : Stage σ α} {s : σ} (h : ∀ a, (x.run s).1.result ≠ .ok a)
    (f : α → Stage σ α) : (x >>= f).run s = x.run s := by
  show andThen x f s = x s
  unfold andThen
  unfold run at h
  rcases hx : x s with ⟨⟨log, result⟩, t⟩
  cases result with
  | error e => rfl
  | ok a => exact absurd (by rw [hx]) (h a)

/-! ## Relating states -/

/-- The state that a step leaves is related to the one that it finds, whether it fails or not. -/
def Relates (R : σ → σ → Prop) (x : Stage σ α) : Prop :=
  ∀ s, R s (x.run s).2

section Relates

variable {R : σ → σ → Prop}

theorem Relates.lift (hrefl : ∀ s, R s s) (x : Outcome α) : Relates R (lift x : Stage σ α) :=
  hrefl

theorem Relates.bind (htrans : ∀ r s t, R r s → R s t → R r t) {x : Stage σ α}
    {f : α → Stage σ β} (hx : Relates R x) (hf : ∀ a, Relates R (f a)) : Relates R (x >>= f) := by
  intro s
  rw [state_bind]
  cases (x.run s).1.result with
  | error e => exact hx s
  | ok a => exact htrans _ _ _ (hx s) (hf a _)

end Relates

end Stage

end StaticSite
