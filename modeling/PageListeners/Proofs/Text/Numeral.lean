import PageListeners.Text.Numeral

/-!
# The grammar of numerals

A numeral is read from the left: every further digit takes what is there ten times. Leading zeros
and the length do not matter. The reader accepts these texts and no others.
-/

namespace PageListeners.Text

variable {cs ds : List Char} {c : Char} {n : Nat}

inductive IsNumeral : List Char → Nat → Prop where
  | digit {d : Nat} (hd : d < 10) : IsNumeral [d.digitChar] d
  | more {cs : List Char} {n d : Nat} (hcs : IsNumeral cs n) (hd : d < 10) :
    IsNumeral (cs ++ [d.digitChar]) (10 * n + d)

def IsUnsigned (cs : List Char) (n : Nat) : Prop :=
  ∃ ds, IsNumeral ds n ∧ (cs = ds ∨ cs = '+' :: ds)

theorem exists_digit (hc : c.isDigit = true) : ∃ d < 10, c = d.digitChar := by
  have hrange : 48 ≤ c.toNat ∧ c.toNat ≤ 57 := by
    simpa [Char.isDigit, UInt32.le_iff_toNat_le] using hc
  refine ⟨c.toNat - 48, by omega, Char.toNat_inj.1 ?_⟩
  rw [Nat.toNat_digitChar_of_lt_ten (by omega)]
  omega

namespace IsNumeral

theorem ne_nil (h : IsNumeral cs n) : cs ≠ [] := by
  cases h with
  | digit hd => exact List.cons_ne_nil _ _
  | more hcs hd => exact List.append_ne_nil_of_right_ne_nil _ (List.cons_ne_nil _ _)

theorem isDigit (h : IsNumeral cs n) : ∀ c ∈ cs, c.isDigit = true := by
  have hdigit : ∀ {d}, d < 10 → ∀ c ∈ [d.digitChar], c.isDigit = true := by
    intro d hd
    simpa [Nat.isDigit_digitChar] using hd
  induction h with
  | digit hd => exact hdigit hd
  | more hcs hd ih => exact List.forall_mem_append.2 ⟨ih, hdigit hd⟩

theorem ofDigitChars (h : IsNumeral cs n) : Nat.ofDigitChars 10 cs 0 = n := by
  induction h with
  | digit hd =>
      rw [Nat.ofDigitChars_cons_digitChar_of_lt_ten hd, Nat.ofDigitChars_nil, Nat.mul_zero,
        Nat.zero_add]
  | more hcs hd ih =>
      rw [Nat.ofDigitChars_append, ih, Nat.ofDigitChars_cons_digitChar_of_lt_ten hd,
        Nat.ofDigitChars_nil]

/-- Further digits make a numeral longer. -/
theorem append (h : IsNumeral cs n) (hds : ∀ c ∈ ds, c.isDigit = true) :
    IsNumeral (cs ++ ds) (Nat.ofDigitChars 10 ds n) := by
  induction ds generalizing cs n with
  | nil => rwa [List.append_nil]
  | cons c ds ih =>
      obtain ⟨hc, hrest⟩ := List.forall_mem_cons.1 hds
      obtain ⟨d, hd, rfl⟩ := exists_digit hc
      rw [List.append_cons, Nat.ofDigitChars_cons_digitChar_of_lt_ten hd]
      exact ih (h.more hd) hrest

end IsNumeral

theorem digits?_eq_some_iff : digits? cs = some n ↔ IsNumeral cs n := by
  constructor
  · intro h
    cases cs with
    | nil => cases h
    | cons c cs =>
        simp only [digits?, List.all_eq_true, Option.ite_none_right_eq_some, Option.some.injEq] at h
        obtain ⟨⟨-, hall⟩, rfl⟩ := h
        obtain ⟨hc, hcs⟩ := List.forall_mem_cons.1 hall
        obtain ⟨d, hd, rfl⟩ := exists_digit hc
        rw [Nat.ofDigitChars_cons_digitChar_of_lt_ten hd, Nat.mul_zero, Nat.zero_add]
        exact (IsNumeral.digit hd).append hcs
  · intro h
    rw [digits?, if_pos ⟨h.ne_nil, List.all_eq_true.2 h.isDigit⟩, h.ofDigitChars]

theorem isUnsigned_iff : IsUnsigned cs n ↔ IsNumeral (dropPlus cs) n := by
  constructor
  · rintro ⟨ds, hds, rfl | rfl⟩
    · have hplus : dropPlus cs = cs := by
        unfold dropPlus
        split
        · next cs => cases hds.isDigit '+' List.mem_cons_self
        · rfl
      rwa [hplus]
    · exact hds
  · intro h
    refine ⟨dropPlus cs, h, ?_⟩
    unfold dropPlus
    split
    · exact Or.inr rfl
    · exact Or.inl rfl

/-- Exactly the numerals whose value fits are read. -/
theorem unsigned?_eq_some_iff {bits : Nat} {s : String} :
    unsigned? bits s = some n ↔ IsUnsigned s.toList n ∧ n < 1 <<< bits := by
  rw [unsigned?, Option.filter_eq_some_iff, digits?_eq_some_iff, isUnsigned_iff, decide_eq_true_iff]

end PageListeners.Text
