import PageListeners.Json.Value

/-!
# Reading JSON

The grammar of JSON texts over lists of characters: one value between blanks. Objects keep their
members in the order of the text. Depth and size of numbers are not limited.
-/

namespace PageListeners.Json

open PageListeners.Text

def isBlank (c : Char) : Bool :=
  c == ' ' || c == '\n' || c == '\t' || c == '\r'

def skipBlanks (cs : List Char) : List Char :=
  cs.dropWhile isBlank

/-- The code point of an escape of one letter. -/
def letterEscape? : Char → Option Nat
  | '"' => some 0x22
  | '\\' => some 0x5C
  | '/' => some 0x2F
  | 'b' => some 0x08
  | 'f' => some 0x0C
  | 'n' => some 0x0A
  | 'r' => some 0x0D
  | 't' => some 0x09
  | _ => none

def fourHex? (a b c d : Char) : Option Nat :=
  match hexValue? a, hexValue? b, hexValue? c, hexValue? d with
  | some a, some b, some c, some d => some (((a * 16 + b) * 16 + c) * 16 + d)
  | _, _, _, _ => none

/-- The code points of a string, surrogates of escapes included, from behind its opening quote,
and what follows the closing one. -/
def stringPoints? : List Char → Option (List Nat × List Char)
  | [] => none
  | '"' :: cs => some ([], cs)
  | '\\' :: 'u' :: a :: b :: c :: d :: cs =>
    match fourHex? a b c d, stringPoints? cs with
    | some n, some (ns, rest) => some (n :: ns, rest)
    | _, _ => none
  | '\\' :: e :: cs =>
    match letterEscape? e, stringPoints? cs with
    | some n, some (ns, rest) => some (n :: ns, rest)
    | _, _ => none
  | c :: cs =>
    if c.toNat < 0x20 then none
    else
      match stringPoints? cs with
      | some (ns, rest) => some (c.toNat :: ns, rest)
      | none => none

def isHighSurrogate (n : Nat) : Bool :=
  0xD800 ≤ n && n ≤ 0xDBFF

def isLowSurrogate (n : Nat) : Bool :=
  0xDC00 ≤ n && n ≤ 0xDFFF

/-- A high surrogate and a low one make one character; any other surrogate spoils the text. -/
def joinSurrogates? : List Nat → Option (List Char)
  | [] => some []
  | [n] => if isHighSurrogate n || isLowSurrogate n then none else some [Char.ofNat n]
  | n :: m :: ns =>
    if isHighSurrogate n then
      if isLowSurrogate m then
        (joinSurrogates? ns).map (Char.ofNat (0x10000 + (n - 0xD800) * 0x400 + (m - 0xDC00)) :: ·)
      else none
    else if isLowSurrogate n then none
    else (joinSurrogates? (m :: ns)).map (Char.ofNat n :: ·)

/-- A string from behind its opening quote. -/
def string? (cs : List Char) : Option (Option String × List Char) :=
  (stringPoints? cs).map fun r => ((joinSurrogates? r.1).map String.ofList, r.2)

/-- One or more digits. -/
def digitRun? (cs : List Char) : Option (List Char × List Char) :=
  match cs.takeWhile Char.isDigit with
  | [] => none
  | ds => some (ds, cs.dropWhile Char.isDigit)

def sign (cs : List Char) : List Char × List Char :=
  match cs with
  | '-' :: rest => (['-'], rest)
  | _ => ([], cs)

/-- A whole number begins with `0` only if it is `0`. -/
def whole? (cs : List Char) : Option (List Char × List Char) :=
  (digitRun? cs).filter fun r => r.1.length = 1 || r.1.head? ≠ some '0'

def fraction? (cs : List Char) : Option (List Char × List Char) :=
  match cs with
  | '.' :: rest => (digitRun? rest).map fun r => ('.' :: r.1, r.2)
  | _ => some ([], cs)

def exponent? (cs : List Char) : Option (List Char × List Char) :=
  match cs with
  | e :: rest =>
    if e = 'e' ∨ e = 'E' then
      let (mark, rest) :=
        match rest with
        | '+' :: rest => (['+'], rest)
        | '-' :: rest => (['-'], rest)
        | _ => ([], rest)
      (digitRun? rest).map fun r => (e :: (mark ++ r.1), r.2)
    else some ([], cs)
  | [] => some ([], [])

def numeral? (cs : List Char) : Option (List Char × List Char) := do
  let (minus, cs) := sign cs
  let (digits, cs) ← whole? cs
  let (fraction, cs) ← fraction? cs
  let (exponent, cs) ← exponent? cs
  some (minus ++ digits ++ fraction ++ exponent, cs)

mutual

/-- The value at the front of the text. The first argument bounds the number of values, items and
members on the way to the innermost one. -/
def value? : Nat → List Char → Option (Value × List Char)
  | 0, _ => none
  | fuel + 1, cs =>
    match skipBlanks cs with
    | 'n' :: 'u' :: 'l' :: 'l' :: rest => some (.null, rest)
    | 't' :: 'r' :: 'u' :: 'e' :: rest => some (.bool true, rest)
    | 'f' :: 'a' :: 'l' :: 's' :: 'e' :: rest => some (.bool false, rest)
    | '"' :: rest => (string? rest).map fun r => (.string r.1, r.2)
    | '[' :: rest =>
      match skipBlanks rest with
      | ']' :: rest => some (.array [], rest)
      | rest => (items? fuel rest).map fun r => (.array r.1, r.2)
    | '\x7b' :: rest =>
      match skipBlanks rest with
      | '\x7d' :: rest => some (.object [], rest)
      | rest => (members? fuel rest).map fun r => (.object r.1, r.2)
    | rest => (numeral? rest).map fun r => (.number (String.ofList r.1), r.2)

/-- The items of an array that is not empty, up to its closing bracket. -/
def items? : Nat → List Char → Option (List Value × List Char)
  | 0, _ => none
  | fuel + 1, cs =>
    match value? fuel cs with
    | none => none
    | some (v, rest) =>
      match skipBlanks rest with
      | ']' :: rest => some ([v], rest)
      | ',' :: rest => (items? fuel rest).map fun r => (v :: r.1, r.2)
      | _ => none

/-- The members of an object that is not empty, up to its closing brace. -/
def members? : Nat → List Char → Option (List (Option String × Value) × List Char)
  | 0, _ => none
  | fuel + 1, cs =>
    match skipBlanks cs with
    | '"' :: rest =>
      match string? rest with
      | none => none
      | some (name, rest) =>
        match skipBlanks rest with
        | ':' :: rest =>
          match value? fuel rest with
          | none => none
          | some (v, rest) =>
            match skipBlanks rest with
            | '\x7d' :: rest => some ([(name, v)], rest)
            | ',' :: rest => (members? fuel rest).map fun r => ((name, v) :: r.1, r.2)
            | _ => none
        | _ => none
    | _ => none

end

/-- An item takes two steps at least one character apart, so twice the length is enough. -/
def readChars? (cs : List Char) : Option Value :=
  match value? (2 * cs.length + 2) cs with
  | some (v, rest) => if skipBlanks rest = [] then some v else none
  | none => none

def read? (s : String) : Option Value :=
  readChars? s.toList

end PageListeners.Json
