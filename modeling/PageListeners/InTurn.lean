/-!
# One after the other

A state that answers a question may change with it. Many questions are put one after the other, each
to the state that the one before left.
-/

namespace PageListeners

variable {σ τ α β : Type}

/-- The answers in the order of the questions, and the state in the end. -/
def inTurn (ask : σ → α → β × σ) (s : σ) : List α → List β × σ
  | [] => ([], s)
  | a :: as =>
    let first := ask s a
    let rest := inTurn ask first.2 as
    (first.1 :: rest.1, rest.2)

/-- Two states that give the same answer to every question, and stay related, give the same answers
to all. -/
theorem inTurn_agrees {R : σ → τ → Prop} {ask : σ → α → β × σ} {ask' : τ → α → β × τ}
    (hask : ∀ {s t}, R s t → ∀ a, (ask s a).1 = (ask' t a).1 ∧ R (ask s a).2 (ask' t a).2)
    {s : σ} {t : τ} (h : R s t) (as : List α) :
    (inTurn ask s as).1 = (inTurn ask' t as).1 ∧ R (inTurn ask s as).2 (inTurn ask' t as).2 := by
  induction as generalizing s t with
  | nil => exact ⟨rfl, h⟩
  | cons a as ih =>
    obtain ⟨hanswer, hnext⟩ := hask h a
    obtain ⟨hanswers, hend⟩ := ih hnext
    exact ⟨by simp only [inTurn, hanswer, hanswers], hend⟩

end PageListeners
