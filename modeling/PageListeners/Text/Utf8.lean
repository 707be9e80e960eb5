/-!
# UTF-8

Writing and reading of UTF-8. Reading cuts the bytes into pieces: a piece is a character, or the
longest run of bytes that begins a character and does not complete it (one byte at least). Strict
reading wants characters only; lenient reading puts U+FFFD where a piece is broken.
-/

namespace PageListeners.Text

def utf8 (s : String) : List UInt8 :=
  s.toList.flatMap String.utf8EncodeChar

/-- What a first byte of a longer sequence announces. -/
structure Lead where
  /-- The bits of the first byte that belong to the code point. -/
  bits : Nat
  /-- The number of bytes that follow. -/
  following : Nat
  /-- The least second byte. -/
  low : UInt8 := 0x80
  /-- The greatest second byte. -/
  high : UInt8 := 0xBF

/-- Second bytes that would give an overlong form, a surrogate or a number past U+10FFFF are
excluded by the bounds. -/
def lead? (b : UInt8) : Option Lead :=
  let n := b.toNat
  if 0xC2 ≤ n ∧ n ≤ 0xDF then some { bits := n - 0xC0, following := 1 }
  else if n = 0xE0 then some { bits := 0, following := 2, low := 0xA0 }
  else if n = 0xED then some { bits := 0xD, following := 2, high := 0x9F }
  else if 0xE1 ≤ n ∧ n ≤ 0xEF then some { bits := n - 0xE0, following := 2 }
  else if n = 0xF0 then some { bits := 0, following := 3, low := 0x90 }
  else if 0xF1 ≤ n ∧ n ≤ 0xF3 then some { bits := n - 0xF0, following := 3 }
  else if n = 0xF4 then some { bits := 4, following := 3, high := 0x8F }
  else none

/-- Reads the bytes that a lead owes, and stops at the first that cannot follow. -/
def following : Nat → UInt8 → UInt8 → Nat → List UInt8 → Option Nat × List UInt8
  | 0, _, _, bits, bytes => (some bits, bytes)
  | _ + 1, _, _, _, [] => (none, [])
  | owed + 1, low, high, bits, b :: bytes =>
    if low ≤ b ∧ b ≤ high then following owed 0x80 0xBF (bits * 64 + (b.toNat - 0x80)) bytes
    else (none, b :: bytes)

/-- The piece that starts with `b`, and the bytes after it. -/
def piece (b : UInt8) (bytes : List UInt8) : Option Char × List UInt8 :=
  if b < 0x80 then (some (Char.ofNat b.toNat), bytes)
  else
    match lead? b with
    | none => (none, bytes)
    | some l =>
      let r := following l.following l.low l.high l.bits bytes
      (r.1.map Char.ofNat, r.2)

theorem length_following_le (owed : Nat) (low high : UInt8) (bits : Nat) (bytes : List UInt8) :
    (following owed low high bits bytes).2.length ≤ bytes.length := by
  fun_induction following owed low high bits bytes with
  | case1 => simp
  | case2 => simp
  | case3 => simp only [List.length_cons]; omega
  | case4 => simp

theorem length_piece_le (b : UInt8) (bytes : List UInt8) :
    (piece b bytes).2.length ≤ bytes.length := by
  unfold piece
  split
  · simp
  · split
    · simp
    · exact length_following_le ..

def pieces : List UInt8 → List (Option Char)
  | [] => []
  | b :: bytes => (piece b bytes).1 :: pieces (piece b bytes).2
termination_by bytes => bytes.length
decreasing_by simpa using Nat.lt_succ_of_le (length_piece_le b bytes)

def fromUtf8 (bytes : List UInt8) : String :=
  String.ofList ((pieces bytes).map (·.getD '\uFFFD'))

def fromUtf8? (bytes : List UInt8) : Option String :=
  ((pieces bytes).mapM id).map String.ofList

end PageListeners.Text
