import PageListeners.Text.Hex
import PageListeners.Toml.Value

/-!
# TOML scalars without quotes

Truth values, numbers, dates and times, each read from the whole of a given text.
-/

namespace PageListeners.Toml

open PageListeners.Text

/-- Digits in groups with one underscore between two of them, without the underscores. -/
def ungroup? (isDigit : Char → Bool) (cs : List Char) : Option (List Char) :=
  let groups := cs.splitOn '_'
  if groups.all fun g => g ≠ [] && g.all isDigit then some groups.flatten else none

/-- Digits of which the first is `0` only if it is the only one. -/
def whole? (cs : List Char) : Option (List Char) :=
  (ungroup? Char.isDigit cs).filter fun ds => ds.length = 1 || ds.head? ≠ some '0'

/-- Whether the number is negative, and what stands behind the sign. -/
def splitSign : List Char → Bool × List Char
  | '-' :: cs => (true, cs)
  | '+' :: cs => (false, cs)
  | cs => (false, cs)

def decimalValue (ds : List Char) : Nat :=
  Nat.ofDigitChars 10 ds 0

def signed (negative : Bool) (n : Nat) : Int :=
  if negative then -n else n

def valueInBase (base : Nat) (ds : List Char) : Nat :=
  ds.foldl (fun n c => n * base + (hexValue? c).getD 0) 0

/-- A number with a base mark, which takes no sign. -/
def based? (base : Nat) (cs : List Char) : Option Nat :=
  (ungroup? (fun c => (hexValue? c).any (· < base)) cs).map (valueInBase base)

def integer? : List Char → Option Int
  | '0' :: 'x' :: cs => (based? 16 cs).map Int.ofNat
  | '0' :: 'o' :: cs => (based? 8 cs).map Int.ofNat
  | '0' :: 'b' :: cs => (based? 2 cs).map Int.ofNat
  | cs =>
    let (negative, cs) := splitSign cs
    (whole? cs).map fun ds => signed negative (decimalValue ds)

def isExponentMark (c : Char) : Bool :=
  c == 'e' || c == 'E'

/-- The digits behind the point; without a point there are none. -/
def fraction? : List Char → Option (List Char)
  | [] => some []
  | _ :: cs => ungroup? Char.isDigit cs

/-- The number behind the exponent's mark; without a mark it is zero. -/
def exponent? : List Char → Option Int
  | [] => some 0
  | _ :: cs =>
    let (negative, cs) := splitSign cs
    (ungroup? Char.isDigit cs).map fun ds => signed negative (decimalValue ds)

/-- A whole number with a fraction or an exponent. -/
def float? (cs : List Char) : Option Decimal := do
  let (negative, cs) := splitSign cs
  let mantissa := cs.takeWhile (!isExponentMark ·)
  let scale := cs.dropWhile (!isExponentMark ·)
  let point := mantissa.dropWhile (· ≠ '.')
  if point = [] ∧ scale = [] then none
  let front ← whole? (mantissa.takeWhile (· ≠ '.'))
  let back ← fraction? point
  let exponent ← exponent? scale
  some ⟨negative, decimalValue (front ++ back), exponent - back.length⟩

/-- A number of exactly two digits. -/
def twoDigits? : List Char → Option (Nat × List Char)
  | a :: b :: cs => if a.isDigit && b.isDigit then some (decimalValue [a, b], cs) else none
  | _ => none

def isLeapYear (year : Nat) : Bool :=
  year % 4 == 0 && (year % 100 != 0 || year % 400 == 0)

def daysOfMonth (year month : Nat) : Nat :=
  if month = 2 then if isLeapYear year then 29 else 28
  else if month = 4 ∨ month = 6 ∨ month = 9 ∨ month = 11 then 30
  else 31

def expect? (c : Char) : List Char → Option (List Char)
  | d :: cs => if d = c then some cs else none
  | [] => none

/-- What follows a date of the calendar. -/
def afterDate? (cs : List Char) : Option (List Char) := do
  let (century, cs) ← twoDigits? cs
  let (yearInCentury, cs) ← twoDigits? cs
  let (month, cs) ← twoDigits? (← expect? '-' cs)
  let (day, cs) ← twoDigits? (← expect? '-' cs)
  let year := century * 100 + yearInCentury
  if 1 ≤ month ∧ month ≤ 12 ∧ 1 ≤ day ∧ day ≤ daysOfMonth year month then some cs else none

/-- What follows the fraction of a second. -/
def afterFraction? : List Char → Option (List Char)
  | '.' :: cs => if cs.head?.any Char.isDigit then some (cs.dropWhile Char.isDigit) else none
  | cs => some cs

/-- What follows the seconds, which may be left out. A leap second counts. -/
def afterSeconds? : List Char → Option (List Char)
  | ':' :: cs => do
    let (second, cs) ← twoDigits? cs
    if second ≤ 60 then afterFraction? cs else none
  | cs => some cs

def afterMinutes? (cs : List Char) : Option (List Char) := do
  let (hour, cs) ← twoDigits? cs
  let (minute, cs) ← twoDigits? (← expect? ':' cs)
  if hour ≤ 23 ∧ minute ≤ 59 then some cs else none

def afterTime? (cs : List Char) : Option (List Char) :=
  (afterMinutes? cs).bind afterSeconds?

/-- Nothing, or the distance from universal time. -/
def isOffset : List Char → Bool
  | [] => true
  | [c] => c == 'Z' || c == 'z'
  | c :: cs => (c == '+' || c == '-') && afterMinutes? cs == some []

def isMoment (cs : List Char) : Bool :=
  match afterDate? cs with
  | some [] => true
  | some (mark :: rest) =>
    (mark == 'T' || mark == 't' || mark == ' ') && (afterTime? rest).any isOffset
  | none => afterTime? cs == some []

/-- A name of a number that is no decimal. -/
def named? (cs : List Char) : Option Value :=
  match (splitSign cs).2 with
  | ['i', 'n', 'f'] => some .infinity
  | ['n', 'a', 'n'] => some .notANumber
  | _ => none

def scalar? (cs : List Char) : Option Value :=
  if cs = ['t', 'r', 'u', 'e'] then some (.bool true)
  else if cs = ['f', 'a', 'l', 's', 'e'] then some (.bool false)
  else if isMoment cs then some (.moment (String.ofList cs))
  else (named? cs).or (((integer? cs).map .integer).or ((float? cs).map .decimal))

end PageListeners.Toml
