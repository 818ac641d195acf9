import TableTalk.Log

/-!
# TableTalk.Proofs.Outcomes

How a computation in several steps ends: it succeeds if each of its steps does, and it refuses no
text if none of its steps does.
-/

namespace TableTalk

theorem bind_eq_ok_iff {ε α β : Type} {x : Except ε α} {f : α → Except ε β} {b : β} :
    x >>= f = .ok b ↔ ∃ a, x = .ok a ∧ f a = .ok b := by
  cases x with
  | error e => simp [bind, Except.bind]
  | ok a => simp [bind, Except.bind]

/-! ### Refusals -/

/-- Whether an error is that of a service which refuses a text. -/
@[simp] def Error.isRefusal : Error → Bool
  | missingStatement | missingQuestion | malformedStatement => true
  | _ => false

/-- A computation that refuses no text, however it ends. -/
def Spares {α : Type} (x : Except Error α) : Prop :=
  ∀ e, x = .error e → e.isRefusal = false

section

variable {α β σ : Type}

@[simp] theorem spares_ok (a : α) : Spares (.ok a) := by
  simp [Spares]

@[simp] theorem spares_pure (a : α) : Spares (pure a) :=
  spares_ok a

@[simp] theorem spares_error (e : Error) :
    Spares (.error e : Except Error α) ↔ e.isRefusal = false := by
  simp [Spares]

@[simp] theorem spares_throw (e : Error) :
    Spares (throw e : Except Error α) ↔ e.isRefusal = false :=
  spares_error e

@[simp] theorem spares_bind (x : Except Error α) (f : α → Except Error β) :
    Spares (x >>= f) ↔ Spares x ∧ ∀ a, x = .ok a → Spares (f a) := by
  cases x with
  | error e => simp [Spares, bind, Except.bind]
  | ok a => simp [Spares, bind, Except.bind]

@[simp] theorem spares_map (f : α → β) (x : Except Error α) : Spares (x.map f) ↔ Spares x := by
  cases x with
  | error e => simp [Spares, Except.map]
  | ok a => simp [Spares, Except.map]

@[simp] theorem spares_functor_map (f : α → β) (x : Except Error α) :
    Spares (f <$> x) ↔ Spares x :=
  spares_map f x

@[simp] theorem spares_ite (p : Prop) [Decidable p] (x y : Except Error α) :
    Spares (if p then x else y) ↔ (p → Spares x) ∧ (¬p → Spares y) := by
  by_cases h : p <;> simp [h]

theorem spares_mapError {ε : Type} {x : Except ε α} {f : ε → Error}
    (spared : ∀ e, (f e).isRefusal = false) : Spares (x.mapError f) := by
  cases x with
  | error e => exact (spares_error _).mpr (spared e)
  | ok a => exact spares_ok a

theorem spares_mapM {f : α → Except Error β} (spares : ∀ a, Spares (f a)) (l : List α) :
    Spares (l.mapM f) := by
  induction l with
  | nil => simp
  | cons a r ih => simp [spares, ih]

theorem spares_foldlM {f : σ → α → Except Error σ} (spares : ∀ s a, Spares (f s a)) (l : List α)
    (s : σ) : Spares (l.foldlM f s) := by
  induction l generalizing s with
  | nil => simp
  | cons a r ih => simp [spares, ih]

/-! ### Refusals and results -/

/-- A computation that refuses no text, and whose result is good if it has one. -/
def Yields (x : Except Error α) (good : α → Prop) : Prop :=
  Spares x ∧ ∀ a, x = .ok a → good a

variable {good : α → Prop}

theorem Yields.ok {a : α} (h : good a) : Yields (.ok a) good := by
  simpa [Yields] using h

theorem Yields.pure {a : α} (h : good a) : Yields (Pure.pure a) good :=
  .ok h

theorem Yields.error {e : Error} (spared : e.isRefusal = false) (good : α → Prop) :
    Yields (.error e) good := by
  simpa [Yields] using spared

theorem Yields.ite {p : Prop} [Decidable p] {x y : Except Error α} (ifTrue : Yields x good)
    (ifFalse : Yields y good) : Yields (if p then x else y) good := by
  split
  · exact ifTrue
  · exact ifFalse

theorem Yields.bind {x : Except Error α} {f : α → Except Error β} {last : β → Prop}
    (first : Yields x good) (others : ∀ a, good a → Yields (f a) last) :
    Yields (x >>= f) last := by
  cases x with
  | error e => simpa [Yields, Bind.bind, Except.bind] using first.1
  | ok a => simpa [Bind.bind, Except.bind] using others a (first.2 a rfl)

theorem Spares.bind {x : Except Error α} {f : α → Except Error β} {last : β → Prop}
    (first : Spares x) (others : ∀ a, x = .ok a → Yields (f a) last) : Yields (x >>= f) last :=
  Yields.bind ⟨first, fun _ h => h⟩ others

theorem Spares.map {x : Except Error α} {f : α → β} {last : β → Prop} (first : Spares x)
    (good : ∀ a, last (f a)) : Yields (x.map f) last := by
  cases x with
  | error e => exact .error (first e rfl) _
  | ok a => exact .ok (good a)

end

end TableTalk
