import PageListeners.Text.Hex
import PageListeners.Text.Utf8

/-!
# Query text

Pairs of names and values in the form `application/x-www-form-urlencoded`. Every text can be read:
empty fields are passed over, a field without `=` has the empty value, a percent sign that no two
digits follow stands for itself, and bytes that are not UTF-8 become U+FFFD.
-/

namespace PageListeners.Query

open PageListeners.Text

/-- Letters, digits and four marks of ASCII are written as they are. -/
def isPlain (b : UInt8) : Bool :=
  let c := Char.ofNat b.toNat
  c.isAlphanum || c == '*' || c == '-' || c == '.' || c == '_'

def encodeByte (b : UInt8) : List Char :=
  if isPlain b then [Char.ofNat b.toNat]
  else if b = 0x20 then ['+']
  else ['%', upperHex (b.toNat / 16), upperHex (b.toNat % 16)]

def encodeText (s : String) : List Char :=
  (utf8 s).flatMap encodeByte

def encodeField (pair : String × String) : List Char :=
  encodeText pair.1 ++ '=' :: encodeText pair.2

def encode (pairs : List (String × String)) : String :=
  String.ofList (['&'].intercalate (pairs.map encodeField))

/-- The bytes that a name or a value stands for. -/
def bytesOf : List Char → List UInt8
  | [] => []
  | '+' :: cs => 0x20 :: bytesOf cs
  | '%' :: a :: b :: cs =>
    match hexValue? a, hexValue? b with
    | some high, some low => UInt8.ofNat (high * 16 + low) :: bytesOf cs
    | _, _ => 0x25 :: bytesOf (a :: b :: cs)
  | c :: cs => String.utf8EncodeChar c ++ bytesOf cs

def decodeText (cs : List Char) : String :=
  fromUtf8 (bytesOf cs)

/-- The first `=` ends the name. -/
def decodeField (cs : List Char) : String × String :=
  (decodeText (cs.takeWhile (· ≠ '=')), decodeText (cs.dropWhile (· ≠ '=')).tail)

def decode (s : String) : List (String × String) :=
  ((s.toList.splitOn '&').filter (· ≠ [])).map decodeField

end PageListeners.Query
