import PageListeners.Text.Hex

/-!
# TOML strings

The four forms of quoted text, each read from behind its opening quotes. Between `"` a backslash
starts an escape, between `'` every character stands for itself; three quotes hold several lines.
-/

namespace PageListeners.Toml

open PageListeners.Text

/-- Controls have to be escaped, the tab excepted. -/
def isVisible (c : Char) : Bool :=
  c == '\t' || (0x20 ≤ c.toNat && c.toNat != 0x7F)

def isSpace (c : Char) : Bool :=
  c == ' ' || c == '\t'

def skipSpaces (cs : List Char) : List Char :=
  cs.dropWhile isSpace

/-- What follows a line break. -/
def afterNewline? : List Char → Option (List Char)
  | '\n' :: cs => some cs
  | '\r' :: '\n' :: cs => some cs
  | _ => none

/-- Takes off spaces and line breaks. -/
def skipLines : List Char → List Char
  | '\r' :: '\n' :: cs => skipLines cs
  | c :: cs => if isSpace c || c == '\n' then skipLines cs else c :: cs
  | [] => []

/-- The character of a code point that is one. -/
def scalarValue? (n : Nat) : Option Char :=
  if n.isValidChar then some (Char.ofNat n) else none

/-- The escape by so many hexadecimal digits. -/
def hexEscape? (count : Nat) (cs : List Char) : Option (Char × List Char) := do
  let (n, rest) ← hexDigits? count 0 cs
  let c ← scalarValue? n
  some (c, rest)

/-- The character of an escape of one letter. -/
def letterEscape? : Char → Option Char
  | 'b' => some '\x08'
  | 't' => some '\t'
  | 'n' => some '\n'
  | 'f' => some '\x0c'
  | 'r' => some '\r'
  | 'e' => some '\x1b'
  | '"' => some '"'
  | '\\' => some '\\'
  | _ => none

/-- The number of hexadecimal digits behind a letter that announces them. -/
def hexCount? : Char → Option Nat
  | 'x' => some 2
  | 'u' => some 4
  | 'U' => some 8
  | _ => none

/-- The character of an escape, from behind its backslash. -/
def escape? : List Char → Option (Char × List Char)
  | [] => none
  | e :: cs =>
    match hexCount? e with
    | some count => hexEscape? count cs
    | none => (letterEscape? e).map (·, cs)

/-- A backslash at the end of a line takes the line break and all blanks after it away. -/
def continued? (cs : List Char) : Option (List Char) :=
  (afterNewline? (skipSpaces cs)).map skipLines

theorem length_hexDigits?_le {count value : Nat} {cs : List Char} {r : Nat × List Char}
    (h : hexDigits? count value cs = some r) : r.2.length ≤ cs.length := by
  fun_induction hexDigits? count value cs with
  | case1 => simp_all [← Option.some.inj h]
  | case2 => simp at h
  | case3 count value c cs d _ ih => exact Nat.le_succ_of_le (ih h)
  | case4 => simp at h

theorem length_hexEscape?_le {count : Nat} {cs : List Char} {r : Char × List Char}
    (h : hexEscape? count cs = some r) : r.2.length ≤ cs.length := by
  simp only [hexEscape?, Option.bind_eq_bind, Option.bind_eq_some_iff, Option.some.injEq] at h
  obtain ⟨d, hd, c, _, rfl⟩ := h
  exact length_hexDigits?_le hd

theorem length_escape?_le {cs : List Char} {r : Char × List Char} (h : escape? cs = some r) :
    r.2.length ≤ cs.length := by
  cases cs with
  | nil => simp [escape?] at h
  | cons e cs =>
    simp only [escape?] at h
    split at h
    · exact Nat.le_succ_of_le (length_hexEscape?_le h)
    · obtain ⟨c, _, rfl⟩ := Option.map_eq_some_iff.1 h
      simp

theorem length_skipLines_le (cs : List Char) : (skipLines cs).length ≤ cs.length := by
  fun_induction skipLines cs with
  | case1 cs ih => simp only [List.length_cons]; omega
  | case2 c cs _ _ ih => simp only [List.length_cons]; omega
  | case3 => simp
  | case4 => simp

theorem length_continued?_le {cs rest : List Char} (h : continued? cs = some rest) :
    rest.length ≤ cs.length := by
  obtain ⟨mid, hmid, rfl⟩ := Option.map_eq_some_iff.1 h
  have hspaces : (skipSpaces cs).length ≤ cs.length := (List.dropWhile_suffix _).length_le
  have hbreak : mid.length ≤ (skipSpaces cs).length := by
    unfold afterNewline? at hmid
    split at hmid
    · simp_all
    · simp_all; omega
    · simp at hmid
  exact Nat.le_trans (length_skipLines_le mid) (Nat.le_trans hbreak hspaces)

/-- Puts a character in front of a text that was read. -/
def consTo (c : Char) (r : Option (List Char × List Char)) : Option (List Char × List Char) :=
  r.map fun r => (c :: r.1, r.2)

def basicLine? : List Char → Option (List Char × List Char)
  | [] => none
  | '"' :: cs => some ([], cs)
  | '\\' :: cs =>
    match _ : escape? cs with
    | some (c, rest) => consTo c (basicLine? rest)
    | none => none
  | c :: cs => if isVisible c then consTo c (basicLine? cs) else none
termination_by cs => cs.length
decreasing_by
  · exact Nat.lt_succ_of_le (length_escape?_le (by assumption))
  · simp

/-- One or two quotes in front of the closing three belong to the text. -/
def basicLines? : List Char → Option (List Char × List Char)
  | [] => none
  | '"' :: '"' :: '"' :: '"' :: '"' :: cs => some (['"', '"'], cs)
  | '"' :: '"' :: '"' :: '"' :: cs => some (['"'], cs)
  | '"' :: '"' :: '"' :: cs => some ([], cs)
  | '\\' :: cs =>
    match _ : continued? cs with
    | some rest => basicLines? rest
    | none =>
      match _ : escape? cs with
      | some (c, rest) => consTo c (basicLines? rest)
      | none => none
  | '\r' :: '\n' :: cs => consTo '\r' (consTo '\n' (basicLines? cs))
  | c :: cs => if isVisible c || c == '\n' then consTo c (basicLines? cs) else none
termination_by cs => cs.length
decreasing_by
  · exact Nat.lt_succ_of_le (length_continued?_le (by assumption))
  · exact Nat.lt_succ_of_le (length_escape?_le (by assumption))
  · simp only [List.length_cons]; omega
  · simp

def literalLine? : List Char → Option (List Char × List Char)
  | [] => none
  | '\'' :: cs => some ([], cs)
  | c :: cs => if isVisible c then consTo c (literalLine? cs) else none

/-- One or two quotes in front of the closing three belong to the text. -/
def literalLines? : List Char → Option (List Char × List Char)
  | [] => none
  | '\'' :: '\'' :: '\'' :: '\'' :: '\'' :: cs => some (['\'', '\''], cs)
  | '\'' :: '\'' :: '\'' :: '\'' :: cs => some (['\''], cs)
  | '\'' :: '\'' :: '\'' :: cs => some ([], cs)
  | '\r' :: '\n' :: cs => consTo '\r' (consTo '\n' (literalLines? cs))
  | c :: cs => if isVisible c || c == '\n' then consTo c (literalLines? cs) else none

/-- A line break right behind the opening quotes does not belong to the text. -/
def dropNewline (cs : List Char) : List Char :=
  (afterNewline? cs).getD cs

/-- A text in one of the four forms, and what follows it. -/
def quoted? : List Char → Option (String × List Char)
  | '"' :: '"' :: '"' :: cs => (basicLines? (dropNewline cs)).map fun r => (String.ofList r.1, r.2)
  | '"' :: cs => (basicLine? cs).map fun r => (String.ofList r.1, r.2)
  | '\'' :: '\'' :: '\'' :: cs =>
    (literalLines? (dropNewline cs)).map fun r => (String.ofList r.1, r.2)
  | '\'' :: cs => (literalLine? cs).map fun r => (String.ofList r.1, r.2)
  | _ => none

end PageListeners.Toml
