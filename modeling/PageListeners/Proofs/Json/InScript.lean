import PageListeners.Proofs.RequestAttributes
import PageListeners.Proofs.ScriptElement

/-!
# JSON inside a script element

Escaping goes over a text without knowing what is a string in it, and a reader of JSON does not see
what it has done. Outside of strings there is no `<`; in a string a `<` is a character of its own,
never the second half of an escape, and a slash that gets a backslash is still a slash. So each part
of the reader finds in the escaped text what it finds in the text.
-/

namespace PageListeners

namespace Json

open PageListeners.Text

variable {α : Type} {cs rest : List Char} {c : Char} {fuel : Nat}

theorem escapeChars_cons (hc : c ≠ '<') (cs : List Char) :
    escapeChars (c :: cs) = c :: escapeChars cs := by
  rw [escapeChars]
  intro _ hlt
  exact absurd hlt hc

theorem exists_escapeChars_cons (c : Char) (cs : List Char) :
    ∃ ds, escapeChars (c :: cs) = c :: ds :=
  List.head?_eq_some_iff.1 (head?_escapeChars (c :: cs))

/-- A run of characters other than `<` is the same in both texts. -/
theorem span_escapeChars {q : Char → Bool} (hq : q '<' = false) (cs : List Char) :
    (escapeChars cs).takeWhile q = cs.takeWhile q ∧
      (escapeChars cs).dropWhile q = escapeChars (cs.dropWhile q) := by
  induction cs with
  | nil => exact ⟨rfl, rfl⟩
  | cons c cs ih =>
      by_cases hc : q c = true
      · have hlt : c ≠ '<' := ne_of_apply_ne q (by simp [hq, hc])
        simp only [escapeChars_cons hlt, List.takeWhile_cons_of_pos hc,
          List.dropWhile_cons_of_pos hc, ih, and_self]
      · obtain ⟨ds, hds⟩ := exists_escapeChars_cons c cs
        simp only [hds, List.takeWhile_cons_of_neg hc, List.dropWhile_cons_of_neg hc, and_self]

theorem skipBlanks_escapeChars (cs : List Char) :
    skipBlanks (escapeChars cs) = escapeChars (skipBlanks cs) :=
  (span_escapeChars rfl cs).2

/-- Whatever the reader finds in a text, it finds in the escaped text, and leaves the escaped
rest. -/
def SeesThrough (read : List Char → Option (α × List Char)) : Prop :=
  ∀ {cs rest x}, read cs = some (x, rest) → read (escapeChars cs) = some (x, escapeChars rest)

/-! ## Strings -/

theorem stringPoints?_slash (cs : List Char) :
    stringPoints? ('\\' :: '/' :: cs) = stringPoints? ('/' :: cs) := by
  rw [stringPoints?_letter (by decide) rfl, stringPoints?_plain (by decide) (by decide) (by decide)]
  rfl

/-- In a string the backslash of an escaped slash is not seen. -/
theorem stringPoints?_escapeChars_cons (c : Char) (cs : List Char) :
    stringPoints? (escapeChars (c :: cs)) = stringPoints? (c :: escapeChars cs) := by
  by_cases hslash : c = '<' ∧ cs.head? = some '/'
  · obtain ⟨rfl, hhead⟩ := hslash
    obtain ⟨ds, rfl⟩ := List.head?_eq_some_iff.1 hhead
    have hlt := @stringPoints?_plain '<' (by decide) (by decide) (by decide)
    rw [escapeChars, hlt, stringPoints?_slash, escapeChars_cons (by decide), hlt]
  · rw [escapeChars]
    rintro ds rfl rfl
    exact hslash ⟨rfl, rfl⟩

theorem ne_of_fourHex? {a b c d : Char} {n : Nat} (h : fourHex? a b c d = some n) :
    a ≠ '<' ∧ b ≠ '<' ∧ c ≠ '<' ∧ d ≠ '<' := by
  have hlt : hexValue? '<' = none := rfl
  refine ⟨?_, ?_, ?_, ?_⟩ <;> rintro rfl <;> simp [fourHex?, hlt] at h

theorem seesThrough_stringPoints? : SeesThrough stringPoints? := by
  intro cs rest ns h
  fun_induction stringPoints? cs generalizing rest ns with
  | case2 cs =>
      cases h
      rw [escapeChars_cons (by decide), stringPoints?]
  | case3 a b c d cs n ns rest hread hcode ih =>
      cases h
      obtain ⟨ha, hb, hc, hd⟩ := ne_of_fourHex? hcode
      rw [escapeChars_cons (by decide), escapeChars_cons (by decide), escapeChars_cons ha,
        escapeChars_cons hb, escapeChars_cons hc, escapeChars_cons hd, stringPoints?, hcode,
        ih hread]
  | case5 e cs hu n ns rest hread hletter ih =>
      cases h
      have hlt : e ≠ '<' := by
        rintro rfl
        cases hletter
      have hne : e ≠ 'u' := by
        rintro rfl
        cases hletter
      rw [escapeChars_cons (by decide), escapeChars_cons hlt, stringPoints?_letter hne hletter,
        ih hread]
      rfl
  | case8 c cs hquote _ hescape hplain ns rest hread ih =>
      cases h
      have hslash : c ≠ '\\' := by
        rintro rfl
        cases cs with
        | nil => cases hread
        | cons e cs => exact hescape e cs rfl rfl
      rw [stringPoints?_escapeChars_cons, stringPoints?_plain hquote hslash hplain, ih hread]
      rfl
  | _ => cases h

/-! ## Numerals -/

theorem seesThrough_digitRun? : SeesThrough digitRun? := by
  intro cs rest ds h
  obtain ⟨hdigits, hafter⟩ := span_escapeChars (q := Char.isDigit) rfl cs
  rw [digitRun?] at h ⊢
  rw [hdigits, hafter]
  cases htake : cs.takeWhile Char.isDigit with
  | nil =>
      rw [htake] at h
      cases h
  | cons d ds =>
      rw [htake] at h
      cases h
      rfl

theorem seesThrough_whole? : SeesThrough whole? := by
  intro cs rest ds h
  rw [whole?, Option.filter_eq_some_iff] at h ⊢
  exact ⟨seesThrough_digitRun? h.1, h.2⟩

/-- So it is with digits behind a mark. -/
theorem map_digitRun?_escapeChars (mark : List Char) {ds : List Char}
    (h : (digitRun? cs).map (fun r => (mark ++ r.1, r.2)) = some (ds, rest)) :
    (digitRun? (escapeChars cs)).map (fun r => (mark ++ r.1, r.2)) =
      some (ds, escapeChars rest) := by
  obtain ⟨r, hr, he⟩ := Option.map_eq_some_iff.1 h
  cases he
  rw [seesThrough_digitRun? hr, Option.map_some]

theorem sign_escapeChars (cs : List Char) :
    sign (escapeChars cs) = ((sign cs).1, escapeChars (sign cs).2) := by
  cases cs with
  | nil => rfl
  | cons c cs =>
      by_cases hc : c = '-'
      · rw [hc, escapeChars_cons (by decide)]
        rfl
      · obtain ⟨ds, hds⟩ := exists_escapeChars_cons c cs
        simp [hds, sign, hc]

theorem fraction?_of_ne (hc : c ≠ '.') (cs : List Char) :
    fraction? (c :: cs) = some ([], c :: cs) := by
  simp [fraction?, hc]

theorem seesThrough_fraction? : SeesThrough fraction? := by
  intro cs rest ds h
  cases cs with
  | nil =>
      cases h
      rfl
  | cons c cs =>
      by_cases hc : c = '.'
      · subst hc
        rw [escapeChars_cons (by decide)]
        exact map_digitRun?_escapeChars ['.'] h
      · obtain ⟨es, hes⟩ := exists_escapeChars_cons c cs
        rw [fraction?_of_ne hc] at h
        cases h
        rw [hes, fraction?_of_ne hc]

theorem exponent?_of_ne (hc : ¬(c = 'e' ∨ c = 'E')) (cs : List Char) :
    exponent? (c :: cs) = some ([], c :: cs) := by
  simp only [exponent?, if_neg hc]

theorem exponent?_signed {d : Char} (hc : c = 'e' ∨ c = 'E') (hd : d = '+' ∨ d = '-')
    (cs : List Char) :
    exponent? (c :: d :: cs) = (digitRun? cs).map fun r => ([c, d] ++ r.1, r.2) := by
  rcases hd with rfl | rfl <;> simp only [exponent?, if_pos hc] <;> rfl

theorem exponent?_unsigned (hc : c = 'e' ∨ c = 'E')
    (hsign : ∀ d ∈ cs.head?, ¬(d = '+' ∨ d = '-')) :
    exponent? (c :: cs) = (digitRun? cs).map fun r => ([c] ++ r.1, r.2) := by
  simp only [exponent?, if_pos hc]
  split
  · exact absurd (Or.inl rfl) (hsign '+' rfl)
  · exact absurd (Or.inr rfl) (hsign '-' rfl)
  · rfl

theorem seesThrough_exponent? : SeesThrough exponent? := by
  intro cs rest ds h
  cases cs with
  | nil =>
      cases h
      rfl
  | cons c cs =>
      by_cases hc : c = 'e' ∨ c = 'E'
      · have hlt : c ≠ '<' := by rcases hc with rfl | rfl <;> decide
        rw [escapeChars_cons hlt]
        by_cases hsign : ∀ d ∈ cs.head?, ¬(d = '+' ∨ d = '-')
        · rw [exponent?_unsigned hc hsign] at h
          rw [exponent?_unsigned hc (head?_escapeChars cs ▸ hsign)]
          exact map_digitRun?_escapeChars [c] h
        · push Not at hsign
          obtain ⟨d, hhead, hd⟩ := hsign
          obtain ⟨cs, rfl⟩ := List.head?_eq_some_iff.1 hhead
          have hdlt : d ≠ '<' := by rcases hd with rfl | rfl <;> decide
          rw [exponent?_signed hc hd] at h
          rw [escapeChars_cons hdlt, exponent?_signed hc hd]
          exact map_digitRun?_escapeChars [c, d] h
      · obtain ⟨es, hes⟩ := exists_escapeChars_cons c cs
        rw [exponent?_of_ne hc] at h
        cases h
        rw [hes, exponent?_of_ne hc]

theorem seesThrough_numeral? : SeesThrough numeral? := by
  intro cs rest ds h
  simp only [numeral?, Option.bind_eq_bind, Option.bind_eq_some_iff] at h
  obtain ⟨whole, hwhole, fraction, hfraction, exponent, hexponent, he⟩ := h
  cases he
  simp only [numeral?, sign_escapeChars, seesThrough_whole? hwhole,
    seesThrough_fraction? hfraction, seesThrough_exponent? hexponent, Option.bind_eq_bind,
    Option.bind_some]

theorem seesThrough_string? : SeesThrough string? := by
  intro cs rest text h
  obtain ⟨r, hr, he⟩ := Option.map_eq_some_iff.1 h
  cases he
  rw [string?, seesThrough_stringPoints? hr, Option.map_some]

theorem exists_numeral_cons {r : List Char × List Char} (h : numeral? cs = some r) :
    ∃ c ds, cs = c :: ds ∧ (c = '-' ∨ c.isDigit = true) := by
  simp only [numeral?, Option.bind_eq_bind, Option.bind_eq_some_iff] at h
  obtain ⟨whole, hwhole, -⟩ := h
  rw [whole?, Option.filter_eq_some_iff, digitRun?] at hwhole
  cases cs with
  | nil => cases hwhole.1
  | cons c ds =>
      refine ⟨c, ds, rfl, ?_⟩
      by_cases hminus : c = '-'
      · exact Or.inl hminus
      by_cases hc : c.isDigit = true
      · exact Or.inr hc
      · have hsign : sign (c :: ds) = ([], c :: ds) := by simp [sign, hminus]
        rw [hsign, List.takeWhile_cons_of_neg hc] at hwhole
        cases hwhole.1

/-! ## Values -/

def SeesThroughFrom (read : Nat → List Char → Option (α × List Char)) (fuel : Nat) : Prop :=
  ∀ {fuel'}, fuel ≤ fuel' → ∀ {cs rest x}, read fuel cs = some (x, rest) →
    read fuel' (escapeChars cs) = some (x, escapeChars rest)

theorem seesThroughFrom_succ {read : Nat → List Char → Option (α × List Char)}
    (h : ∀ {fuel'}, fuel ≤ fuel' → ∀ {cs rest x}, read (fuel + 1) cs = some (x, rest) →
      read (fuel' + 1) (escapeChars cs) = some (x, escapeChars rest)) :
    SeesThroughFrom read (fuel + 1) := by
  intro fuel' hle
  cases fuel' with
  | zero => cases hle
  | succ fuel' => exact h (Nat.le_of_succ_le_succ hle)

theorem value?_numeral (hc : c = '-' ∨ c.isDigit = true) (fuel : Nat) (cs : List Char) :
    value? (fuel + 1) (c :: cs) =
      (numeral? (c :: cs)).map fun r => (.number (String.ofList r.1), r.2) := by
  rcases hc with rfl | hc
  · rfl
  · exact value?_digit hc fuel cs

theorem value?_emptyArray (h : skipBlanks cs = ']' :: rest) :
    value? (fuel + 1) ('[' :: cs) = some (.array [], rest) := by
  have hskip : skipBlanks ('[' :: cs) = '[' :: cs := rfl
  rw [value?, hskip]
  simp only [h]

theorem value?_emptyObject (h : skipBlanks cs = '\x7d' :: rest) :
    value? (fuel + 1) ('\x7b' :: cs) = some (.object [], rest) := by
  have hskip : skipBlanks ('\x7b' :: cs) = '\x7b' :: cs := rfl
  rw [value?, hskip]
  simp only [h]

theorem seesThroughFrom_value? (hitems : SeesThroughFrom items? fuel)
    (hmembers : SeesThroughFrom members? fuel) : SeesThroughFrom value? (fuel + 1) := by
  apply seesThroughFrom_succ
  intro fuel' hle cs rest v h
  rw [value?] at h
  rw [← value?_skipBlanks, skipBlanks_escapeChars]
  -- three words, a string, an array, an object, and a numeral if it is none of these
  split at h
  · next hds =>
    cases h
    rw [hds]
    simp only [escapeChars_cons, ne_eq, Char.reduceEq, not_false_eq_true]
    rfl
  · next hds =>
    cases h
    rw [hds]
    simp only [escapeChars_cons, ne_eq, Char.reduceEq, not_false_eq_true]
    rfl
  · next hds =>
    cases h
    rw [hds]
    simp only [escapeChars_cons, ne_eq, Char.reduceEq, not_false_eq_true]
    rfl
  · next hds =>
    obtain ⟨r, hr, he⟩ := Option.map_eq_some_iff.1 h
    cases he
    rw [hds, escapeChars_cons (by decide), value?_string (seesThrough_string? hr)]
  · next hds =>
    rw [hds, escapeChars_cons (by decide)]
    split at h
    · next hclose =>
      cases h
      apply value?_emptyArray
      rw [skipBlanks_escapeChars, hclose, escapeChars_cons (by decide)]
    · obtain ⟨r, hr, he⟩ := Option.map_eq_some_iff.1 h
      cases he
      apply value?_array
      rw [← items?_skipBlanks, skipBlanks_escapeChars, hitems hle hr]
  · next hds =>
    rw [hds, escapeChars_cons (by decide)]
    split at h
    · next hclose =>
      cases h
      apply value?_emptyObject
      rw [skipBlanks_escapeChars, hclose, escapeChars_cons (by decide)]
    · obtain ⟨r, hr, he⟩ := Option.map_eq_some_iff.1 h
      cases he
      apply value?_object
      rw [← members?_skipBlanks, skipBlanks_escapeChars, hmembers hle hr]
  · obtain ⟨r, hr, he⟩ := Option.map_eq_some_iff.1 h
    cases he
    obtain ⟨c, ds, hds, hc⟩ := exists_numeral_cons hr
    have hlt : c ≠ '<' := by
      rintro rfl
      simp at hc
    have hescaped := seesThrough_numeral? hr
    rw [hds, escapeChars_cons hlt] at hescaped ⊢
    rw [value?_numeral hc, hescaped, Option.map_some]

theorem seesThroughFrom_items? (hvalue : SeesThroughFrom value? fuel)
    (hitems : SeesThroughFrom items? fuel) : SeesThroughFrom items? (fuel + 1) := by
  apply seesThroughFrom_succ
  intro fuel' hle cs rest vs h
  rw [items?] at h ⊢
  split at h
  · cases h
  · next v after hv =>
    rw [hvalue hle hv]
    simp only [skipBlanks_escapeChars]
    split at h
    · next hds =>
      cases h
      rw [hds, escapeChars_cons (by decide)]
      rfl
    · next hds =>
      obtain ⟨r, hr, he⟩ := Option.map_eq_some_iff.1 h
      cases he
      rw [hds, escapeChars_cons (by decide)]
      simp only [hitems hle hr, Option.map_some]
    · cases h

theorem seesThroughFrom_members? (hvalue : SeesThroughFrom value? fuel)
    (hmembers : SeesThroughFrom members? fuel) : SeesThroughFrom members? (fuel + 1) := by
  apply seesThroughFrom_succ
  intro fuel' hle cs rest ms h
  rw [members?] at h ⊢
  rw [skipBlanks_escapeChars]
  split at h
  · next hquote =>
    rw [hquote, escapeChars_cons (by decide)]
    split at h
    · cases h
    · next name behind hname =>
      simp only [seesThrough_string? hname, skipBlanks_escapeChars]
      split at h
      · next hcolon =>
        rw [hcolon, escapeChars_cons (by decide)]
        split at h
        · cases h
        · next v after hv =>
          simp only [hvalue hle hv, skipBlanks_escapeChars]
          split at h
          · next hds =>
            cases h
            rw [hds, escapeChars_cons (by decide)]
            rfl
          · next hds =>
            obtain ⟨r, hr, he⟩ := Option.map_eq_some_iff.1 h
            cases he
            rw [hds, escapeChars_cons (by decide)]
            simp only [hmembers hle hr, Option.map_some]
          · cases h
      · cases h
  · cases h

/-- Each of the three readers needs the others with less fuel. -/
theorem seesThroughFrom (fuel : Nat) : SeesThroughFrom value? fuel ∧
    SeesThroughFrom items? fuel ∧ SeesThroughFrom members? fuel := by
  induction fuel with
  | zero =>
      refine ⟨?_, ?_, ?_⟩ <;> intro _ _ _ _ _ h <;> cases h
  | succ fuel ih =>
      obtain ⟨hvalue, hitems, hmembers⟩ := ih
      exact ⟨seesThroughFrom_value? hitems hmembers, seesThroughFrom_items? hvalue hitems,
        seesThroughFrom_members? hvalue hmembers⟩

theorem length_le_escapeChars (cs : List Char) : cs.length ≤ (escapeChars cs).length := by
  fun_induction escapeChars cs with
  | case1 cs ih => simp only [List.length_cons]; omega
  | case2 c cs _ ih => simp only [List.length_cons]; omega
  | case3 => exact Nat.le_refl _

/-- Whatever JSON text is escaped, it is read as the same value. -/
theorem read?_escapeScript {s : String} {v : Value} (h : read? s = some v) :
    read? (escapeScript s) = some v := by
  rw [read?, readChars?] at h
  split at h
  · next w rest hw =>
    obtain ⟨hend, he⟩ := Option.ite_none_right_eq_some.1 h
    cases he
    have hfuel : 2 * s.toList.length + 2 ≤ 2 * (escapeChars s.toList).length + 2 := by
      have hle := length_le_escapeChars s.toList
      omega
    have hread := (seesThroughFrom _).1 hfuel hw
    rw [read?, escapeScript, String.toList_ofList, readChars?, hread]
    simp only [skipBlanks_escapeChars, hend]
    rfl
  · cases h

end Json

namespace RequestAttributes

open Json

/-- What a payload says is not changed when the scripts of a head are escaped. -/
theorem read?_escapeScript_json (a : RequestAttributes) :
    read? a.json = some a.payload ∧ read? (escapeScript a.json) = some a.payload :=
  ⟨a.read?_json, read?_escapeScript a.read?_json⟩

example : escapeScript (RequestAttributes.json { url := "<</\\", markupId := "/<\"/" }) =
    "\x7b\"u\":\"<<\\/\\\\\",\"c\":\"/<\\\"/\",\"e\":\"\"\x7d" := by
  decide +kernel

end RequestAttributes

end PageListeners
