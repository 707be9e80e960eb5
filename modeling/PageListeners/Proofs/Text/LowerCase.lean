import PageListeners.Text.LowerCase

/-!
# Lower case

Lower case leaves no capital letter of ASCII, whatever the letters come from. A character is lowered
in view of the text around it, but only a capital sigma depends on it. Behind a cased letter a text
is lowered as it would be alone, unless it begins with a sigma that no cased letter follows.
-/

namespace PageListeners.Text

theorem lt_first_add_shift : ∀ r ∈ letterRuns, 0x5A < r.first + r.shift := by
  decide +kernel

theorem capitals_mem_letterRuns : ⟨0x41, 0x5A, 1, 32⟩ ∈ letterRuns := List.mem_cons_self

theorem not_capital_smallPoint (n : Nat) : ¬ (0x41 ≤ smallPoint n ∧ smallPoint n ≤ 0x5A) := by
  unfold smallPoint
  split
  · next r hr =>
    have hlt := lt_first_add_shift r (List.mem_of_find?_eq_some hr)
    have hcontains := List.find?_some hr
    simp only [LetterRun.contains, Bool.and_eq_true, decide_eq_true_eq] at hcontains
    omega
  · next hr =>
    have hnone := List.find?_eq_none.1 hr _ capitals_mem_letterRuns
    simp only [LetterRun.contains, Nat.mod_one, BEq.rfl, Bool.and_true, Bool.and_eq_true,
      decide_eq_true_eq] at hnone
    exact hnone

theorem toLower_eq_self {c : Char} (h : ¬ (0x41 ≤ c.toNat ∧ c.toNat ≤ 0x5A)) : c.toLower = c := by
  unfold Char.toLower
  exact dif_neg h

theorem toLower_smallLetter (c : Char) : (smallLetter c).toLower = smallLetter c := by
  apply toLower_eq_self
  have hn := not_capital_smallPoint c.toNat
  unfold smallLetter
  generalize smallPoint c.toNat = n at hn
  by_cases hvalid : n.isValidChar
  · rw [Char.ofNat, dif_pos hvalid]
    exact hn
  · rw [Char.ofNat, dif_neg hvalid]
    decide

theorem toLower_of_mem_smallForm {before after : List Char} {c a : Char}
    (h : a ∈ smallForm before c after) : a.toLower = a := by
  unfold smallForm at h
  split at h
  · rcases List.mem_cons.1 h with rfl | h
    · rfl
    · rw [List.mem_singleton.1 h]
      rfl
  · split at h
    · rw [List.mem_singleton.1 h]
      split <;> rfl
    · rw [List.mem_singleton.1 h]
      exact toLower_smallLetter c

theorem toLower_of_mem_lowerFrom {before cs : List Char} {a : Char} (h : a ∈ lowerFrom before cs) :
    a.toLower = a := by
  induction cs generalizing before with
  | nil => cases h
  | cons c after ih =>
      rcases List.mem_append.1 h with hform | hrest
      · exact toLower_of_mem_smallForm hform
      · exact ih hrest

def IsSmall (s : String) : Prop :=
  s.toList.map Char.toLower = s.toList

theorem eq_of_isSmall {s t : String} (hs : IsSmall s) (ht : IsSmall t)
    (hsame : sameButAsciiCase s t = true) : s = t := by
  rw [sameButAsciiCase, beq_iff_eq, hs, ht] at hsame
  exact String.toList_inj.1 hsame

/-- The first character that is not case-ignorable is a capital sigma, and it is not followed by a
cased letter. Such a sigma is final as soon as a cased letter comes before the text. -/
def opensWithLoneSigma : List Char → Bool
  | [] => false
  | c :: after =>
    if inRanges caseIgnorableRanges c then opensWithLoneSigma after
    else c == 'Σ' && !meetsCased after

theorem meetsCased_cons (c : Char) (cs : List Char) : meetsCased (c :: cs) =
    if inRanges caseIgnorableRanges c then meetsCased cs else inRanges casedRanges c := by
  rw [meetsCased, List.dropWhile_cons]
  split <;> rfl

theorem ne_sigma_of_caseIgnorable {c : Char} (hc : inRanges caseIgnorableRanges c = true) :
    c ≠ 'Σ' := by
  rintro rfl
  revert hc
  decide +kernel

variable {before before' cs : List Char}

theorem smallForm_of_ne {c : Char} (hc : c ≠ 'Σ') (before before' after : List Char) :
    smallForm before c after = smallForm before' c after := by
  rw [smallForm, smallForm, if_neg hc, if_neg hc]

theorem smallForm_sigma (before after : List Char) : smallForm before 'Σ' after =
    [if meetsCased before && !meetsCased after then 'ς' else 'σ'] := by
  have hne : 'Σ' ≠ 'İ' := by decide
  rw [smallForm, if_neg hne, if_pos rfl]

/-- Of the text before it, lower case sees whether the way back meets a cased letter. -/
theorem lowerFrom_congr (hb : meetsCased before = meetsCased before') (cs : List Char) :
    lowerFrom before cs = lowerFrom before' cs := by
  induction cs generalizing before before' with
  | nil => rfl
  | cons c after ih =>
      have hnext : meetsCased (c :: before) = meetsCased (c :: before') := by
        rw [meetsCased_cons, meetsCased_cons, hb]
      have hform : smallForm before c after = smallForm before' c after := by
        rw [smallForm, smallForm, hb]
      rw [lowerFrom, lowerFrom, hform, ih hnext]

/-- Behind a cased letter everything is written as at the start of a text, but for one sigma. -/
theorem lowerFrom_behind_cased (hb : meetsCased before = true) (hb' : meetsCased before' = false) :
    if opensWithLoneSigma cs then
      ∃ front back, lowerFrom before' cs = front ++ 'σ' :: back ∧
        lowerFrom before cs = front ++ 'ς' :: back
    else lowerFrom before cs = lowerFrom before' cs := by
  induction cs generalizing before before' with
  | nil => rfl
  | cons c after ih =>
      rw [opensWithLoneSigma, lowerFrom, lowerFrom]
      by_cases hc : inRanges caseIgnorableRanges c = true
      · -- the letter is read over on the way back, so the two texts before stay as they are
        have hnext : ∀ bs, meetsCased (c :: bs) = meetsCased bs := by
          intro bs
          rw [meetsCased_cons, if_pos hc]
        have hrest := ih ((hnext before).trans hb) ((hnext before').trans hb')
        rw [if_pos hc, smallForm_of_ne (ne_sigma_of_caseIgnorable hc) before before']
        split
        · next hlone =>
          rw [if_pos hlone] at hrest
          obtain ⟨front, back, hsmall, hfinal⟩ := hrest
          exact ⟨smallForm before' c after ++ front, back, by rw [hsmall, List.append_assoc],
            by rw [hfinal, List.append_assoc]⟩
        · next hlone =>
          rw [if_neg hlone] at hrest
          rw [hrest]
      · have hrest : lowerFrom (c :: before) after = lowerFrom (c :: before') after := by
          apply lowerFrom_congr
          rw [meetsCased_cons, meetsCased_cons, if_neg hc, if_neg hc]
        rw [if_neg hc, hrest]
        by_cases hsigma : c = 'Σ'
        · subst hsigma
          rw [smallForm_sigma, smallForm_sigma, hb, hb']
          cases meetsCased after with
          | true => rfl
          | false => exact ⟨[], _, rfl, rfl⟩
        · rw [smallForm_of_ne hsigma before before', beq_eq_false_iff_ne.2 hsigma]
          rfl

theorem smallForm_ne_nil (before : List Char) (c : Char) (after : List Char) :
    smallForm before c after ≠ [] := by
  unfold smallForm
  split
  · exact List.cons_ne_nil _ _
  · split <;> exact List.cons_ne_nil _ _

theorem lowerFrom_ne_nil (before : List Char) (h : cs ≠ []) : lowerFrom before cs ≠ [] := by
  cases cs with
  | nil => exact absurd rfl h
  | cons c after => exact List.append_ne_nil_of_left_ne_nil (smallForm_ne_nil before c after) _

end PageListeners.Text
