import PageListeners.Error

/-!
# Stepwise changes

A change of a state in several steps, each of which may fail. What was done before a failure stays
done, so the outcome is a result or an error, and a state in either case.
-/

namespace PageListeners

abbrev Change (σ : Type) := ExceptT Error (StateM σ)

namespace Change

variable {σ α β : Type}

def apply (m : Change σ α) (s : σ) : Except Error α × σ :=
  m.run.run s

@[simp] theorem apply_pure (a : α) (s : σ) : apply (pure a) s = (.ok a, s) := rfl

@[simp] theorem apply_throw (e : Error) (s : σ) :
    apply (throw e : Change σ α) s = (.error e, s) := rfl

@[simp] theorem apply_get (s : σ) : apply (get : Change σ σ) s = (.ok s, s) := rfl

@[simp] theorem apply_modify (f : σ → σ) (s : σ) :
    apply (modify f : Change σ PUnit) s = (.ok ⟨⟩, f s) := rfl

@[simp] theorem apply_lift (x : Except Error α) (s : σ) :
    apply (liftM x : Change σ α) s = (x, s) := by
  cases x <;> rfl

theorem apply_bind (m : Change σ α) (f : α → Change σ β) (s : σ) :
    apply (m >>= f) s =
      match apply m s with
      | (.ok a, t) => apply (f a) t
      | (.error e, t) => (.error e, t) := by
  show ((m >>= f).run.run s) = _
  simp only [ExceptT.run_bind, StateT.run_bind, apply]
  rcases h : m.run.run s with ⟨r, t⟩
  cases r <;> rfl

@[simp] theorem apply_map (f : α → β) (m : Change σ α) (s : σ) :
    apply (f <$> m) s =
      match apply m s with
      | (.ok a, t) => (.ok (f a), t)
      | (.error e, t) => (.error e, t) := by
  rw [map_eq_pure_bind, apply_bind]
  rfl

theorem apply_bind_ok {m : Change σ α} {s t : σ} {a : α} (h : apply m s = (.ok a, t))
    (f : α → Change σ β) : apply (m >>= f) s = apply (f a) t := by
  rw [apply_bind, h]

end Change

end PageListeners
