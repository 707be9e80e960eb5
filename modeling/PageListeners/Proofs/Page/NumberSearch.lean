import Mathlib.Order.Bounds.Defs
import PageListeners.Proofs.Page.MarkupIds

/-!
# The search for a free number

A markup id is generated by trying one number after the other, and each number that is tried is used
up. Nothing in the search itself bounds it. It ends because the components have taken no more
candidates than there are components, and it ends at the first one that is free.
-/

namespace PageListeners.Page

variable {p q q' : Page} {id m m' : String} {k k' n : Nat}

def useNumber (p : Page) : Page :=
  { p with nextNumber := p.nextNumber + 1 }

/-- The search from a page on, without a bound: it looks at a number of candidates, gives a markup id
and leaves a page. -/
inductive Generates (id : String) : Page → Nat → String → Page → Prop where
  | found {p : Page} (hfree : p.usesMarkupId (numbered id p.nextNumber) none = false) :
    Generates id p 1 (numbered id p.nextNumber) p.useNumber
  | taken {p q : Page} {k : Nat} {m : String}
    (htaken : p.usesMarkupId (numbered id p.nextNumber) none = true)
    (hrest : Generates id p.useNumber k m q) : Generates id p (k + 1) m q

/-- The search cannot go two ways. -/
theorem Generates.unique (hg : Generates id p k m q) (hg' : Generates id p k' m' q') :
    k' = k ∧ m' = m ∧ q' = q := by
  induction hg generalizing k' m' q' with
  | found hfree =>
      cases hg' with
      | found _ => exact ⟨rfl, rfl, rfl⟩
      | taken htaken _ => cases hfree.symm.trans htaken
  | taken htaken _ ih =>
      cases hg' with
      | found hfree => cases hfree.symm.trans htaken
      | taken _ hrest =>
          obtain ⟨rfl, rfl, rfl⟩ := ih hrest
          exact ⟨rfl, rfl, rfl⟩

/-- The search passes over the candidates that are taken. A number that is used up makes no
difference to which ones those are. -/
theorem generates_of_taken
    (htaken : ∀ j < k, p.usesMarkupId (numbered id (p.nextNumber + j)) none = true)
    (hfree : p.usesMarkupId (numbered id (p.nextNumber + k)) none = false) :
    Generates id p (k + 1) (numbered id (p.nextNumber + k))
      { p with nextNumber := p.nextNumber + k + 1 } := by
  induction k generalizing p with
  | zero => exact .found hfree
  | succ k ih =>
      have hnext : ∀ j, p.useNumber.nextNumber + j = p.nextNumber + (j + 1) := by
        intro j
        simp only [useNumber]
        omega
      have hrest := ih (p := p.useNumber)
        (fun j hj => hnext j ▸ htaken (j + 1) (Nat.succ_lt_succ hj)) (hnext k ▸ hfree)
      rw [hnext k] at hrest
      exact .taken (htaken 0 (Nat.succ_pos k)) hrest

theorem freeNumber_le (p : Page) (id : String) :
    p.freeNumber id ≤ p.nextNumber + p.components.length := by
  have hmem := List.mem_range'_1.1 (List.mem_of_find?_eq_some (p.find?_candidates id))
  omega

/-- Every candidate before the one that is found belongs to a component. -/
theorem usesMarkupId_of_lt_freeNumber (hle : p.nextNumber ≤ n) (hlt : n < p.freeNumber id) :
    p.usesMarkupId (numbered id n) none = true := by
  obtain ⟨-, -, htaken⟩ := List.find?_range'_eq_some.1 (p.find?_candidates id)
  simpa using htaken n hle hlt

theorem isLeast_freeNumber (p : Page) (id : String) :
    IsLeast {n | p.nextNumber ≤ n ∧ ∀ h, p.markupId? h ≠ some (numbered id n)}
      (p.freeNumber id) := by
  have hfree : ∀ n, (∀ h, p.markupId? h ≠ some (numbered id n)) ↔
      p.usesMarkupId (numbered id n) none = false := by
    intro n
    simp [usesMarkupId_eq_false_iff]
  constructor
  · exact ⟨p.nextNumber_le_freeNumber id, (hfree _).2 (p.usesMarkupId_freeNumber id)⟩
  · rintro n ⟨hle, hn⟩
    by_contra hlt
    have htaken := usesMarkupId_of_lt_freeNumber hle (Nat.lt_of_not_le hlt)
    cases ((hfree n).1 hn).symm.trans htaken

/-- The search ends after at most one candidate more than there are components. It gives the markup
id with the least free number from the next one on, and the number after that one is the next. -/
theorem generateMarkupId_least (p : Page) (id : String) :
    ∃ k n, k ≤ p.components.length + 1 ∧ p.nextNumber + k = n + 1 ∧
      IsLeast {n | p.nextNumber ≤ n ∧ ∀ h, p.markupId? h ≠ some (numbered id n)} n ∧
      (∀ k' m q, Generates id p k' m q ↔
        k' = k ∧ m = numbered id n ∧ q = { p with nextNumber := n + 1 }) ∧
      (Edit.generateMarkupId id).apply p =
        (.ok (numbered id n), { p with nextNumber := n + 1 }) := by
  obtain ⟨k, hk⟩ := Nat.exists_eq_add_of_le (p.nextNumber_le_freeNumber id)
  have hsearch : Generates id p (k + 1) (numbered id (p.freeNumber id))
      { p with nextNumber := p.freeNumber id + 1 } := by
    rw [hk]
    apply generates_of_taken
    · intro j hj
      exact usesMarkupId_of_lt_freeNumber (Nat.le_add_right ..) (by omega)
    · exact hk ▸ p.usesMarkupId_freeNumber id
  refine ⟨k + 1, p.freeNumber id, ?_, by omega, p.isLeast_freeNumber id, ?_,
    Edit.apply_generateMarkupId p id⟩
  · have hbound := p.freeNumber_le id
    omega
  · intro k' m q
    constructor
    · exact hsearch.unique
    · rintro ⟨rfl, rfl, rfl⟩
      exact hsearch

/-- Two candidates were given away by hand. -/
example : ([Operation.setMarkupId 1 "item_3", .setMarkupId 2 "item_4"].foldl Operation.run
    sample).freeNumber "item" = 5 := by
  decide +kernel

end PageListeners.Page
