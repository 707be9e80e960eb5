/-!
# Entries under keys

A list of pairs is searched by the first components. Taking a key out leaves the other keys as they
are, and so does a new entry in front for the key that was taken out.
-/

namespace PageListeners

variable {α β : Type} [DecidableEq α]

theorem lookup_cons_eq_ite (es : List (α × β)) (key k : α) (b : β) :
    ((key, b) :: es).lookup k = if k = key then some b else es.lookup k := by
  rw [List.lookup_cons]
  by_cases hk : k = key
  · simp [hk]
  · simp [hk, beq_false_of_ne hk]

theorem lookup_filter_ne (es : List (α × β)) (key k : α) :
    (es.filter (·.1 ≠ key)).lookup k = if k = key then none else es.lookup k := by
  induction es with
  | nil => simp
  | cons e es ih =>
    obtain ⟨a, b⟩ := e
    by_cases ha : a = key
    · subst ha
      rw [List.filter_cons_of_neg (by simp), ih, lookup_cons_eq_ite]
      split <;> rfl
    · rw [List.filter_cons_of_pos (by simpa using ha), lookup_cons_eq_ite, lookup_cons_eq_ite, ih]
      by_cases hk : k = a
      · simp [hk, ha]
      · simp [hk]

theorem lookup_cons_filter_ne (es : List (α × β)) (key k : α) (b : β) :
    ((key, b) :: es.filter (·.1 ≠ key)).lookup k = if k = key then some b else es.lookup k := by
  rw [lookup_cons_eq_ite, lookup_filter_ne]
  split <;> rfl

end PageListeners
