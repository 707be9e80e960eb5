/-!
# TOML values

The values of a document. Whole numbers are exact whatever their size; a float keeps the decimal
it was written as.
-/

namespace PageListeners.Toml

/-- The number `digits * 10 ^ exponent`. -/
structure Decimal where
  negative : Bool
  digits : Nat
  exponent : Int
  deriving DecidableEq, Repr

namespace Decimal

/-- From half a unit in the last place above the greatest 64-bit float, a number has no finite
float. -/
def floatBound : Nat :=
  (1 <<< 1024) - (1 <<< 970)

/-- The number is past the range of 64-bit floats. Numbers of fewer than 308 digits before the
point are not, those of more than 310 are; only between them the powers are worked out. -/
def overflows (d : Decimal) : Bool :=
  if d.digits = 0 then false
  else
    let size := (Nat.toDigits 10 d.digits).length + d.exponent
    if size < 308 then false
    else if 310 < size then true
    else floatBound * Nat.pow 10 (-d.exponent).toNat ≤ d.digits * Nat.pow 10 d.exponent.toNat

end Decimal

inductive Value where
  | text (s : String)
  | integer (n : Int)
  | decimal (d : Decimal)
  /-- Not finite by its very name. -/
  | infinity
  | notANumber
  | bool (b : Bool)
  /-- A date, a time or both, as it is written. -/
  | moment (written : String)
  | array (items : List Value)
  | table (entries : List (String × Value))

namespace Value

def text? : Value → Option String
  | .text s => some s
  | _ => none

def bool? : Value → Option Bool
  | .bool b => some b
  | _ => none

/-- A whole number that is not negative and takes at most so many bits. -/
def unsigned? (bits : Nat) : Value → Option Nat
  | .integer n => if 0 ≤ n ∧ n.toNat < 1 <<< bits then some n.toNat else none
  | _ => none

mutual

/-- Whole numbers fit into 128 bits, signed or not, and floats into 64 bits. -/
def fits : Value → Bool
  | .integer n => n.natAbs < if n < 0 then (1 <<< 127) + 1 else 1 <<< 128
  | .decimal d => !d.overflows
  | .array items => fitsItems items
  | .table entries => fitsEntries entries
  | _ => true

def fitsItems : List Value → Bool
  | [] => true
  | v :: vs => fits v && fitsItems vs

def fitsEntries : List (String × Value) → Bool
  | [] => true
  | (_, v) :: es => fits v && fitsEntries es

end

end Value

end PageListeners.Toml
