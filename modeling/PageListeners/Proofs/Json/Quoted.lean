import PageListeners.Json.Reader

/-!
# Reading back quoted texts

The closing quote of a quoted text is the first one that no escape covers. So a text that begins
with a quoted one tells where it ends and what it quotes.
-/

namespace PageListeners.Json

open PageListeners.Text

variable {cs ds rest tail : List Char}

/-- A character is escaped by a letter, escaped by its code, or stands for itself. -/
theorem escapeChar_cases (c : Char) :
    (∃ e, escapeChar c = ['\\', e] ∧ e ≠ 'u' ∧ letterEscape? e = some c.toNat) ∨
      (c.toNat < 0x20 ∧ escapeChar c =
        ['\\', 'u', '0', '0', lowerHex (c.toNat / 16), lowerHex (c.toNat % 16)]) ∨
      (c ≠ '"' ∧ c ≠ '\\' ∧ ¬ c.toNat < 0x20 ∧ escapeChar c = [c]) := by
  have hletter : ∀ {d e : Char}, c = d → escapeChar d = ['\\', e] → e ≠ 'u' →
      letterEscape? e = some d.toNat →
      ∃ e, escapeChar c = ['\\', e] ∧ e ≠ 'u' ∧ letterEscape? e = some c.toNat := by
    rintro d e rfl he hne hd
    exact ⟨e, he, hne, hd⟩
  by_cases hquote : c = '"'
  · exact Or.inl (hletter hquote rfl (by decide) rfl)
  by_cases hslash : c = '\\'
  · exact Or.inl (hletter hslash rfl (by decide) rfl)
  by_cases hb : c = '\x08'
  · exact Or.inl (hletter hb rfl (by decide) rfl)
  by_cases hf : c = '\x0c'
  · exact Or.inl (hletter hf rfl (by decide) rfl)
  by_cases hn : c = '\n'
  · exact Or.inl (hletter hn rfl (by decide) rfl)
  by_cases hr : c = '\r'
  · exact Or.inl (hletter hr rfl (by decide) rfl)
  by_cases ht : c = '\t'
  · exact Or.inl (hletter ht rfl (by decide) rfl)
  apply Or.inr
  unfold escapeChar
  rw [if_neg hquote, if_neg hslash, if_neg hb, if_neg hf, if_neg hn, if_neg hr, if_neg ht]
  by_cases hc : c.toNat < 0x20
  · exact Or.inl ⟨hc, if_pos hc⟩
  · exact Or.inr ⟨hquote, hslash, hc, if_neg hc⟩

theorem stringPoints?_letter {e : Char} {n : Nat} (hne : e ≠ 'u') (he : letterEscape? e = some n)
    (rest : List Char) :
    stringPoints? ('\\' :: e :: rest) = (stringPoints? rest).map fun r => (n :: r.1, r.2) := by
  rw [stringPoints?, he]
  · cases stringPoints? rest <;> rfl
  · intro _ _ _ _ _ hu
    exact absurd hu hne

theorem stringPoints?_control {n : Nat} (hn : n < 0x20) (rest : List Char) :
    stringPoints? ('\\' :: 'u' :: '0' :: '0' :: lowerHex (n / 16) :: lowerHex (n % 16) :: rest) =
      (stringPoints? rest).map fun r => (n :: r.1, r.2) := by
  have hhigh : hexValue? (lowerHex (n / 16)) = some (n / 16) := hexValue?_lowerHex (by omega)
  have hlow : hexValue? (lowerHex (n % 16)) = some (n % 16) := hexValue?_lowerHex (by omega)
  have hzero : hexValue? '0' = some 0 := rfl
  have hcode : fourHex? '0' '0' (lowerHex (n / 16)) (lowerHex (n % 16)) = some n := by
    simp only [fourHex?, hzero, hhigh, hlow, Option.some.injEq]
    omega
  rw [stringPoints?, hcode]
  cases stringPoints? rest <;> rfl

theorem stringPoints?_plain {c : Char} (hquote : c ≠ '"') (hslash : c ≠ '\\')
    (hc : ¬ c.toNat < 0x20) (rest : List Char) :
    stringPoints? (c :: rest) = (stringPoints? rest).map fun r => (c.toNat :: r.1, r.2) := by
  rw [stringPoints?, if_neg hc]
  · cases stringPoints? rest <;> rfl
  · exact hquote
  · intro _ _ _ _ _ he
    exact absurd he hslash
  · intro _ _ he
    exact absurd he hslash

/-- One character is read back from what stands for it. -/
theorem stringPoints?_escapeChar (c : Char) (rest : List Char) :
    stringPoints? (escapeChar c ++ rest) =
      (stringPoints? rest).map fun r => (c.toNat :: r.1, r.2) := by
  rcases escapeChar_cases c with ⟨e, hc, hne, he⟩ | ⟨hcontrol, hc⟩ | ⟨hquote, hslash, hplain, hc⟩
  · rw [hc]
    exact stringPoints?_letter hne he rest
  · rw [hc]
    exact stringPoints?_control hcontrol rest
  · rw [hc]
    exact stringPoints?_plain hquote hslash hplain rest

theorem stringPoints?_quoted (cs rest : List Char) :
    stringPoints? (cs.flatMap escapeChar ++ '"' :: rest) = some (cs.map Char.toNat, rest) := by
  induction cs with
  | nil => rfl
  | cons c cs ih =>
      rw [List.flatMap_cons, List.append_assoc, stringPoints?_escapeChar, ih]
      rfl

/-- Two texts that begin with a quoted one agree only if they quote the same and go on the same. -/
theorem quoteChars_append_inj (he : quoteChars cs ++ rest = quoteChars ds ++ tail) :
    cs = ds ∧ rest = tail := by
  have hread : ∀ (cs rest : List Char), stringPoints? (quoteChars cs ++ rest).tail =
      some (cs.map Char.toNat, rest) := by
    intro cs rest
    rw [quoteChars, List.cons_append, List.tail_cons, List.append_assoc, List.singleton_append,
      stringPoints?_quoted]
  have hsame := (hread cs rest).symm.trans (he ▸ hread ds tail)
  rw [Option.some.injEq, Prod.mk.injEq] at hsame
  exact ⟨(List.map_inj_right fun _ _ => Char.toNat_inj.1).1 hsame.1, hsame.2⟩

end PageListeners.Json
