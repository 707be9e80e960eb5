/-!
# Hexadecimal digits
-/

namespace PageListeners.Text

/-- Both cases of the letters are digits. -/
def hexValue? (c : Char) : Option Nat :=
  if '0' ≤ c ∧ c ≤ '9' then some (c.toNat - '0'.toNat)
  else if 'a' ≤ c ∧ c ≤ 'f' then some (c.toNat - 'a'.toNat + 10)
  else if 'A' ≤ c ∧ c ≤ 'F' then some (c.toNat - 'A'.toNat + 10)
  else none

def upperHex (n : Nat) : Char :=
  (Nat.digitChar n).toUpper

def lowerHex (n : Nat) : Char :=
  Nat.digitChar n

/-- The value of exactly `count` digits, and what follows them. -/
def hexDigits? : Nat → Nat → List Char → Option (Nat × List Char)
  | 0, value, cs => some (value, cs)
  | _ + 1, _, [] => none
  | count + 1, value, c :: cs =>
    match hexValue? c with
    | some d => hexDigits? count (value * 16 + d) cs
    | none => none

theorem hexValue?_upperHex {n : Nat} (h : n < 16) : hexValue? (upperHex n) = some n := by
  revert n; decide

theorem hexValue?_lowerHex {n : Nat} (h : n < 16) : hexValue? (lowerHex n) = some n := by
  revert n; decide

end PageListeners.Text
