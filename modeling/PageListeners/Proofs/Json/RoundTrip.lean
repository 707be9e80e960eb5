import Mathlib.Data.List.DropRight
import PageListeners.Proofs.Address
import PageListeners.Proofs.Json.Quoted

/-!
# Reading back compact texts

A value is read back from its compact text, whatever stands behind it: quotes and brackets close
where they were opened for it, and only a numeral has to be told where it ends. The reader spends
at most two steps on a character, and it does not mind blanks behind a comma.
-/

namespace PageListeners.Json

open PageListeners.Text

variable {cs rest blanks : List Char} {fuel n : Nat} {v w : Value} {vs : List Value}
  {members : List (Option String × Value)} {ms : List (String × Value)}

namespace Value

/-- Numbers are natural numbers, and every string is a text. -/
inductive IsRegular : Value → Prop where
  | null : IsRegular .null
  | bool (b : Bool) : IsRegular (.bool b)
  | nat (n : Nat) : IsRegular (.nat n)
  | text (s : String) : IsRegular (.text s)
  | array {vs : List Value} (hvs : ∀ v ∈ vs, IsRegular v) : IsRegular (.array vs)
  | record {ms : List (String × Value)} (hms : ∀ m ∈ ms, IsRegular m.2) : IsRegular (.record ms)

end Value

def EndsNumeral (rest : List Char) : Prop :=
  ∀ c ∈ rest.head?, c.isDigit = false ∧ c ≠ '.' ∧ c ≠ 'e' ∧ c ≠ 'E'

/-- The value is read back from its compact text, with `rest` left over. -/
def ReadsBack (v : Value) : Prop :=
  ∀ {fuel rest}, 2 * v.chars.length ≤ fuel → EndsNumeral rest →
    value? fuel (v.chars ++ rest) = some (v, rest)

/-! ## Literals -/

theorem readsBack_null : ReadsBack .null := by
  intro fuel rest hfuel _
  cases fuel with
  | zero => cases hfuel
  | succ fuel => rfl

theorem readsBack_bool (b : Bool) : ReadsBack (.bool b) := by
  intro fuel rest hfuel _
  cases fuel with
  | zero => cases b <;> cases hfuel
  | succ fuel => cases b <;> rfl

/-! ## Strings -/

theorem isSurrogate_toNat (c : Char) :
    isHighSurrogate c.toNat = false ∧ isLowSurrogate c.toNat = false := by
  have hvalid : c.toNat < 0xD800 ∨ 0xDFFF < c.toNat ∧ c.toNat < 0x110000 := c.valid
  simp only [isHighSurrogate, isLowSurrogate, Bool.and_eq_false_iff, decide_eq_false_iff_not]
  omega

theorem joinSurrogates?_toNat (cs : List Char) : joinSurrogates? (cs.map Char.toNat) = some cs := by
  induction cs with
  | nil => rfl
  | cons c cs ih =>
      obtain ⟨hhigh, hlow⟩ := isSurrogate_toNat c
      cases cs with
      | nil => simp [joinSurrogates?, hhigh, hlow]
      | cons d ds =>
          rw [List.map_cons] at ih
          simp [joinSurrogates?, hhigh, hlow, ih]

theorem string?_quoted (cs rest : List Char) :
    string? (cs.flatMap escapeChar ++ '"' :: rest) = some (some (String.ofList cs), rest) := by
  rw [string?, stringPoints?_quoted, Option.map_some, joinSurrogates?_toNat, Option.map_some]

theorem value?_string {text : Option String} (h : string? cs = some (text, rest)) :
    value? (fuel + 1) ('"' :: cs) = some (.string text, rest) := by
  have hskip : skipBlanks ('"' :: cs) = '"' :: cs := rfl
  rw [value?, hskip]
  simp only [h, Option.map_some]

theorem readsBack_text (s : String) : ReadsBack (.text s) := by
  intro fuel rest hfuel _
  have hchars : (Value.text s).chars ++ rest =
      '"' :: (s.toList.flatMap escapeChar ++ '"' :: rest) := by
    simp [Value.text, Value.chars, stringChars, quoteChars]
  cases fuel with
  | zero => cases hfuel
  | succ fuel =>
      rw [hchars, value?_string (string?_quoted s.toList rest), String.ofList_toList]
      rfl

/-! ## Numerals -/

theorem endsNumeral_nil : EndsNumeral [] := by
  rintro c ⟨⟩

theorem endsNumeral_cons {c : Char} (hc : c.isDigit = false ∧ c ≠ '.' ∧ c ≠ 'e' ∧ c ≠ 'E')
    (cs : List Char) : EndsNumeral (c :: cs) := by
  rintro d ⟨⟩
  exact hc

theorem takeWhile_isDigit (hrest : EndsNumeral rest) : rest.takeWhile Char.isDigit = [] := by
  cases rest with
  | nil => rfl
  | cons c cs => simp [(hrest c rfl).1]

theorem dropWhile_isDigit (hrest : EndsNumeral rest) : rest.dropWhile Char.isDigit = rest := by
  cases rest with
  | nil => rfl
  | cons c cs => simp [(hrest c rfl).1]

theorem exists_toString_eq_cons (n : Nat) :
    ∃ d ds, (toString n).toList = d :: ds ∧ d.isDigit = true := by
  have hne : (toString n).toList ≠ [] := by
    rw [Address.toList_toString]
    exact Nat.toDigits_ne_nil
  obtain ⟨d, ds, hds⟩ := List.exists_cons_of_ne_nil hne
  exact ⟨d, ds, hds, Address.isDigit_of_mem_toString (hds ▸ List.mem_cons_self)⟩

theorem head?_toDigits (hn : 0 < n) : (Nat.toDigits 10 n).head? ≠ some '0' := by
  induction n using Nat.strongRecOn with
  | _ n ih =>
    by_cases hlt : n < 10
    · have hdigits : ∀ m < 10, 0 < m → [m.digitChar].head? ≠ some '0' := by decide
      rw [Nat.toDigits_of_lt_base hlt]
      exact hdigits n hlt hn
    · have hsplit : Nat.toDigits 10 (n / 10) ++ Nat.toDigits 10 (n % 10) = Nat.toDigits 10 n := by
        rw [Nat.toDigits_append_toDigits (by omega) (by omega) (by omega), Nat.div_add_mod]
      rw [← hsplit, List.head?_append_of_ne_nil _ Nat.toDigits_ne_nil]
      exact ih (n / 10) (by omega) (by omega)

theorem digitRun?_toString (n : Nat) (hrest : EndsNumeral rest) :
    digitRun? ((toString n).toList ++ rest) = some ((toString n).toList, rest) := by
  obtain ⟨d, ds, hds, -⟩ := exists_toString_eq_cons n
  have hall : ∀ c ∈ (toString n).toList, c.isDigit = true :=
    fun _ => Address.isDigit_of_mem_toString
  rw [digitRun?, List.takeWhile_append_of_pos hall, List.dropWhile_append_of_pos hall,
    takeWhile_isDigit hrest, dropWhile_isDigit hrest, List.append_nil, hds]

/-- Only zero begins with a zero. -/
theorem whole?_toString (n : Nat) (hrest : EndsNumeral rest) :
    whole? ((toString n).toList ++ rest) = some ((toString n).toList, rest) := by
  have hlead : (toString n).toList.length = 1 ∨ (toString n).toList.head? ≠ some '0' := by
    rw [Address.toList_toString]
    rcases Nat.eq_zero_or_pos n with rfl | hn
    · exact Or.inl rfl
    · exact Or.inr (head?_toDigits hn)
  rw [whole?, digitRun?_toString n hrest, Option.filter_some, if_pos (by simpa using hlead)]

theorem fraction?_rest (hrest : EndsNumeral rest) : fraction? rest = some ([], rest) := by
  unfold fraction?
  split
  · exact absurd rfl (hrest '.' rfl).2.1
  · rfl

theorem exponent?_rest (hrest : EndsNumeral rest) : exponent? rest = some ([], rest) := by
  cases rest with
  | nil => rfl
  | cons c cs => simp [exponent?, hrest c rfl]

theorem sign_toString (n : Nat) (rest : List Char) :
    sign ((toString n).toList ++ rest) = ([], (toString n).toList ++ rest) := by
  obtain ⟨d, ds, hds, hd⟩ := exists_toString_eq_cons n
  unfold sign
  split
  · next cs hcs =>
    rw [hds] at hcs
    cases hcs
    cases hd
  · rfl

theorem numeral?_toString (n : Nat) (hrest : EndsNumeral rest) :
    numeral? ((toString n).toList ++ rest) = some ((toString n).toList, rest) := by
  simp only [numeral?, sign_toString, whole?_toString n hrest, fraction?_rest hrest,
    exponent?_rest hrest, Option.bind_eq_bind, Option.bind_some, List.nil_append, List.append_nil]

theorem value?_digit {c : Char} (hc : c.isDigit = true) (fuel : Nat) (cs : List Char) :
    value? (fuel + 1) (c :: cs) =
      (numeral? (c :: cs)).map fun r => (.number (String.ofList r.1), r.2) := by
  have hne : ∀ d : Char, d.isDigit = false → c ≠ d := by
    rintro d hd rfl
    rw [hc] at hd
    cases hd
  have hblank : isBlank c = false := by
    simp [isBlank, hne ' ' rfl, hne '\n' rfl, hne '\t' rfl, hne '\r' rfl]
  have hskip : skipBlanks (c :: cs) = c :: cs := List.dropWhile_cons_of_neg (by simp [hblank])
  rw [value?, hskip]
  split
  · next heq => exact absurd (List.cons.inj heq).1 (hne 'n' rfl)
  · next heq => exact absurd (List.cons.inj heq).1 (hne 't' rfl)
  · next heq => exact absurd (List.cons.inj heq).1 (hne 'f' rfl)
  · next heq => exact absurd (List.cons.inj heq).1 (hne '"' rfl)
  · next heq => exact absurd (List.cons.inj heq).1 (hne '[' rfl)
  · next heq => exact absurd (List.cons.inj heq).1 (hne '\x7b' rfl)
  · rfl

theorem readsBack_nat (n : Nat) : ReadsBack (.nat n) := by
  intro fuel rest hfuel hrest
  have hchars : (Value.nat n).chars = (toString n).toList := rfl
  obtain ⟨d, ds, hds, hd⟩ := exists_toString_eq_cons n
  rw [hchars] at hfuel ⊢
  cases fuel with
  | zero =>
      rw [hds] at hfuel
      cases hfuel
  | succ fuel =>
      rw [hds, List.cons_append, value?_digit hd, ← List.cons_append, ← hds,
        numeral?_toString n hrest, Option.map_some, String.ofList_toList]
      rfl

/-! ## Arrays -/

theorem skipBlanks_skipBlanks (cs : List Char) : skipBlanks (skipBlanks cs) = skipBlanks cs :=
  List.dropWhile_idempotent ..

theorem value?_skipBlanks (fuel : Nat) (cs : List Char) :
    value? fuel (skipBlanks cs) = value? fuel cs := by
  cases fuel with
  | zero => rfl
  | succ fuel => rw [value?, value?, skipBlanks_skipBlanks]

theorem items?_skipBlanks (fuel : Nat) (cs : List Char) :
    items? fuel (skipBlanks cs) = items? fuel cs := by
  cases fuel with
  | zero => rfl
  | succ fuel => rw [items?, items?, value?_skipBlanks]

theorem items?_blanks (hblanks : ∀ c ∈ blanks, isBlank c = true) (fuel : Nat) (cs : List Char) :
    items? fuel (blanks ++ cs) = items? fuel cs := by
  have hskip : skipBlanks (blanks ++ cs) = skipBlanks cs := List.dropWhile_append_of_pos hblanks
  rw [← items?_skipBlanks, hskip, items?_skipBlanks]

theorem items?_closing (fuel : Nat) (cs : List Char) : items? fuel (']' :: cs) = none := by
  have hvalue : ∀ fuel, value? fuel (']' :: cs) = none := by
    intro fuel
    cases fuel <;> rfl
  cases fuel with
  | zero => rfl
  | succ fuel => rw [items?, hvalue]

theorem items?_last (hv : value? fuel cs = some (v, ']' :: rest)) :
    items? (fuel + 1) cs = some ([v], rest) := by
  rw [items?, hv]
  rfl

theorem items?_comma (hv : value? fuel cs = some (v, ',' :: rest)) :
    items? (fuel + 1) cs = (items? fuel rest).map fun r => (v :: r.1, r.2) := by
  rw [items?, hv]
  rfl

theorem value?_array (hvs : items? fuel cs = some (vs, rest)) :
    value? (fuel + 1) ('[' :: cs) = some (.array vs, rest) := by
  have hskip : skipBlanks ('[' :: cs) = '[' :: cs := rfl
  rw [value?, hskip]
  simp only
  split
  · next ds hds =>
    rw [← items?_skipBlanks, hds, items?_closing] at hvs
    cases hvs
  · rw [items?_skipBlanks, hvs]
    rfl

theorem intercalate_map_cons {α : Type} (sep : List Char) (f : α → List Char) (x y : α)
    (ys : List α) : sep.intercalate ((x :: y :: ys).map f) =
      f x ++ (sep ++ sep.intercalate ((y :: ys).map f)) := by
  have hne : (y :: ys).map f ≠ [] := List.cons_ne_nil _ _
  rw [List.map_cons, List.intercalate_cons_of_ne_nil hne, List.append_assoc]

/-- A reader that takes part after part, as long as a comma follows, reads all parts up to the
closing mark. -/
theorem reads_intercalate {α β : Type} {read : Nat → List Char → Option (List β × List Char)}
    {text : α → List Char} {g : α → β} {close : Char} {xs : List α}
    (hblanks : ∀ fuel cs, read fuel (blanks ++ cs) = read fuel cs)
    (hlast : ∀ x ∈ xs, ∀ fuel rest, 2 * (text x).length ≤ fuel →
      read (fuel + 1) (text x ++ close :: rest) = some ([g x], rest))
    (hcomma : ∀ x ∈ xs, ∀ fuel rest, 2 * (text x).length ≤ fuel →
      read (fuel + 1) (text x ++ ',' :: rest) =
        (read fuel rest).map fun r => (g x :: r.1, r.2))
    (hne : xs ≠ []) (hfuel : 2 * ((',' :: blanks).intercalate (xs.map text)).length < fuel)
    (rest : List Char) :
    read fuel ((',' :: blanks).intercalate (xs.map text) ++ close :: rest) =
      some (xs.map g, rest) := by
  induction xs generalizing fuel with
  | nil => exact absurd rfl hne
  | cons x xs ih =>
      cases fuel with
      | zero => cases hfuel
      | succ fuel =>
          cases xs with
          | nil =>
              rw [List.map_cons, List.map_nil, List.intercalate_singleton] at hfuel ⊢
              exact hlast x List.mem_cons_self fuel rest (Nat.le_of_lt_succ hfuel)
          | cons y ys =>
              rw [intercalate_map_cons] at hfuel ⊢
              simp only [List.length_append, List.length_cons] at hfuel
              have hshort : 2 * ((',' :: blanks).intercalate ((y :: ys).map text)).length < fuel := by
                omega
              have hys := ih (fun z hz => hlast z (List.mem_cons_of_mem x hz))
                (fun z hz => hcomma z (List.mem_cons_of_mem x hz)) (List.cons_ne_nil y ys) hshort
              rw [List.append_assoc, List.append_assoc, List.cons_append,
                hcomma x List.mem_cons_self fuel _ (by omega), hblanks, hys]
              rfl

/-- Blanks may follow the commas. -/
theorem items?_intercalate (hblanks : ∀ c ∈ blanks, isBlank c = true)
    (hvs : ∀ v ∈ vs, ReadsBack v) (hne : vs ≠ [])
    (hfuel : 2 * ((',' :: blanks).intercalate (vs.map Value.chars)).length < fuel)
    (rest : List Char) :
    items? fuel ((',' :: blanks).intercalate (vs.map Value.chars) ++ ']' :: rest) =
      some (vs, rest) := by
  have hread := reads_intercalate (g := id) (items?_blanks hblanks)
    (fun v hv _ rest hlen => items?_last (hvs v hv hlen (endsNumeral_cons (by decide) rest)))
    (fun v hv _ rest hlen => items?_comma (hvs v hv hlen (endsNumeral_cons (by decide) rest)))
    hne hfuel rest
  rw [hread, List.map_id]

theorem itemChars_eq (vs : List Value) :
    Value.itemChars vs = [','].intercalate (vs.map Value.chars) := by
  induction vs with
  | nil => rfl
  | cons v vs ih =>
      cases vs with
      | nil =>
          rw [List.map_cons, List.map_nil, List.intercalate_singleton]
          rfl
      | cons w ws =>
          rw [intercalate_map_cons, ← ih, Value.itemChars]
          · rfl
          · exact List.cons_ne_nil w ws

theorem readsBack_array (hvs : ∀ v ∈ vs, ReadsBack v) : ReadsBack (.array vs) := by
  intro fuel rest hfuel _
  have hchars : (Value.array vs).chars =
      '[' :: ([','].intercalate (vs.map Value.chars) ++ [']']) := by
    rw [Value.chars, itemChars_eq]
  rw [hchars] at hfuel ⊢
  simp only [List.length_cons, List.length_append] at hfuel
  rw [List.cons_append, List.append_assoc, List.singleton_append]
  cases fuel with
  | zero => cases hfuel
  | succ fuel =>
      by_cases hnil : vs = []
      · subst hnil
        rfl
      · exact value?_array (items?_intercalate (by simp) hvs hnil (by omega) rest)

/-! ## Objects -/

def memberText (m : String × Value) : List Char :=
  quoteChars m.1.toList ++ ':' :: m.2.chars

theorem skipBlanks_quoteChars (cs rest : List Char) :
    skipBlanks (quoteChars cs ++ rest) = '"' :: (cs.flatMap escapeChar ++ '"' :: rest) := by
  simp [quoteChars, skipBlanks, isBlank]

theorem members?_skipBlanks (fuel : Nat) (cs : List Char) :
    members? fuel (skipBlanks cs) = members? fuel cs := by
  cases fuel with
  | zero => rfl
  | succ fuel => rw [members?, members?, skipBlanks_skipBlanks]

theorem members?_closing (fuel : Nat) (cs : List Char) : members? fuel ('\x7d' :: cs) = none := by
  cases fuel with
  | zero => rfl
  | succ fuel => rfl

theorem members?_last (name : String) (hv : value? fuel cs = some (v, '\x7d' :: rest)) :
    members? (fuel + 1) (quoteChars name.toList ++ ':' :: cs) = some ([(some name, v)], rest) := by
  have hcolon : skipBlanks (':' :: cs) = ':' :: cs := rfl
  rw [members?, skipBlanks_quoteChars]
  simp only [string?_quoted, hcolon, hv, String.ofList_toList]
  rfl

theorem members?_comma (name : String) (hv : value? fuel cs = some (v, ',' :: rest)) :
    members? (fuel + 1) (quoteChars name.toList ++ ':' :: cs) =
      (members? fuel rest).map fun r => ((some name, v) :: r.1, r.2) := by
  have hcolon : skipBlanks (':' :: cs) = ':' :: cs := rfl
  rw [members?, skipBlanks_quoteChars]
  simp only [string?_quoted, hcolon, hv, String.ofList_toList]
  rfl

theorem value?_object (hms : members? fuel cs = some (members, rest)) :
    value? (fuel + 1) ('\x7b' :: cs) = some (.object members, rest) := by
  have hskip : skipBlanks ('\x7b' :: cs) = '\x7b' :: cs := rfl
  rw [value?, hskip]
  simp only
  split
  · next ds hds =>
    rw [← members?_skipBlanks, hds, members?_closing] at hms
    cases hms
  · rw [members?_skipBlanks, hms]
    rfl

theorem members?_intercalate (hms : ∀ m ∈ ms, ReadsBack m.2) (hne : ms ≠ [])
    (hfuel : 2 * ([','].intercalate (ms.map memberText)).length < fuel) (rest : List Char) :
    members? fuel ([','].intercalate (ms.map memberText) ++ '\x7d' :: rest) =
      some (ms.map fun m => (some m.1, m.2), rest) := by
  have hvalue : ∀ m ∈ ms, ∀ {fuel rest}, 2 * (memberText m).length ≤ fuel → EndsNumeral rest →
      value? fuel (m.2.chars ++ rest) = some (m.2, rest) := by
    intro m hm fuel rest hlen hrest
    rw [memberText, List.length_append, List.length_cons] at hlen
    exact hms m hm (by omega) hrest
  have htext : ∀ (m : String × Value) (rest : List Char),
      memberText m ++ rest = quoteChars m.1.toList ++ ':' :: (m.2.chars ++ rest) := by
    simp [memberText]
  refine reads_intercalate (fun _ _ => rfl) ?_ ?_ hne hfuel rest
  · intro m hm fuel rest hlen
    rw [htext, members?_last m.1 (hvalue m hm hlen (endsNumeral_cons (by decide) rest))]
  · intro m hm fuel rest hlen
    rw [htext, members?_comma m.1 (hvalue m hm hlen (endsNumeral_cons (by decide) rest))]

theorem memberChars_eq (ms : List (String × Value)) :
    Value.memberChars (ms.map fun m => (some m.1, m.2)) =
      [','].intercalate (ms.map memberText) := by
  induction ms with
  | nil => rfl
  | cons m ms ih =>
      cases ms with
      | nil =>
          simp only [List.map_cons, List.map_nil, List.intercalate_singleton]
          rfl
      | cons w ws =>
          rw [intercalate_map_cons, ← ih, List.map_cons, List.map_cons, Value.memberChars]
          · simp [memberText, stringChars]
          · exact List.cons_ne_nil _ _

theorem chars_record (ms : List (String × Value)) :
    (Value.record ms).chars = '\x7b' :: ([','].intercalate (ms.map memberText) ++ ['\x7d']) := by
  rw [Value.record, Value.chars, memberChars_eq]

theorem readsBack_record (hms : ∀ m ∈ ms, ReadsBack m.2) : ReadsBack (.record ms) := by
  intro fuel rest hfuel _
  rw [chars_record] at hfuel ⊢
  simp only [List.length_cons, List.length_append] at hfuel
  rw [List.cons_append, List.append_assoc, List.singleton_append]
  cases fuel with
  | zero => cases hfuel
  | succ fuel =>
      by_cases hnil : ms = []
      · subst hnil
        rfl
      · exact value?_object (members?_intercalate hms hnil (by omega) rest)

/-! ## Texts of one value -/

theorem readChars?_eq_some (hv : value? (2 * cs.length + 2) cs = some (v, [])) :
    readChars? cs = some v := by
  rw [readChars?, hv]
  rfl

namespace Value.IsRegular

theorem readsBack (hv : v.IsRegular) : ReadsBack v := by
  induction hv with
  | null => exact readsBack_null
  | bool b => exact readsBack_bool b
  | nat n => exact readsBack_nat n
  | text s => exact readsBack_text s
  | array _ ih => exact readsBack_array ih
  | record _ ih => exact readsBack_record ih

theorem read?_compact (hv : v.IsRegular) : read? v.compact = some v := by
  have hread : value? (2 * v.chars.length + 2) (v.chars ++ []) = some (v, []) :=
    hv.readsBack (by omega) endsNumeral_nil
  rw [List.append_nil] at hread
  rw [read?, compact, String.toList_ofList, readChars?_eq_some hread]

/-- Two values have one text only if they are the same. -/
theorem eq_of_compact_eq (hv : v.IsRegular) (hw : w.IsRegular) (he : v.compact = w.compact) :
    v = w := by
  have hread := hv.read?_compact
  rw [he, hw.read?_compact, Option.some.injEq] at hread
  exact hread.symm

end Value.IsRegular

end PageListeners.Json
