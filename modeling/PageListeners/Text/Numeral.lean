/-!
# Numerals and other scalars

Reading of whole numbers, truth values and single characters. A numeral is an optional sign and
one or more of the digits `0` to `9`, without blanks; the sign `-` belongs to signed numbers only,
and the value has to fit into the given number of bits.
-/

namespace PageListeners.Text

def digits? (cs : List Char) : Option Nat :=
  if cs ≠ [] ∧ cs.all Char.isDigit then some (Nat.ofDigitChars 10 cs 0) else none

def dropPlus : List Char → List Char
  | '+' :: cs => cs
  | cs => cs

def unsigned? (bits : Nat) (s : String) : Option Nat :=
  (digits? (dropPlus s.toList)).filter (· < 1 <<< bits)

def signed? (bits : Nat) (s : String) : Option Int :=
  match s.toList with
  | '-' :: cs => ((digits? cs).filter (· ≤ 1 <<< (bits - 1))).map fun n => -(n : Int)
  | cs => ((digits? (dropPlus cs)).filter (· < 1 <<< (bits - 1))).map Int.ofNat

def flag? (s : String) : Option Bool :=
  if s = "true" then some true else if s = "false" then some false else none

/-- A text of exactly one character. -/
def single? (s : String) : Option Char :=
  match s.toList with
  | [c] => some c
  | _ => none

theorem digits?_toDigits (n : Nat) : digits? (Nat.toDigits 10 n) = some n := by
  have hall : (Nat.toDigits 10 n).all Char.isDigit = true :=
    List.all_eq_true.2 fun c hc => Nat.isDigit_of_mem_toDigits (by omega) (by omega) hc
  have hne : Nat.toDigits 10 n ≠ [] := Nat.toDigits_ne_nil
  simp [digits?, hne, hall, Nat.ofDigitChars_toDigits]

end PageListeners.Text
