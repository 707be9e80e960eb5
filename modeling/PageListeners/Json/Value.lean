import PageListeners.Text.Hex

/-!
# JSON values and their compact text

The members of an object keep their order and may repeat a name. A number is the text of its
numeral. The compact text has no blanks; in a string only the quote, the backslash and the controls
below U+0020 are escaped.
-/

namespace PageListeners.Json

open PageListeners.Text

inductive Value where
  | null
  | bool (b : Bool)
  | number (numeral : String)
  /-- Without a text, a string in which an escape names a surrogate without its partner: it is
  well-formed all the same. -/
  | string (text? : Option String)
  | array (items : List Value)
  | object (members : List (Option String × Value))

namespace Value

def text (s : String) : Value :=
  .string (some s)

def nat (n : Nat) : Value :=
  .number (toString n)

def texts (ss : List String) : Value :=
  .array (ss.map text)

/-- Each pair is an array of two strings. -/
def pairs (ps : List (String × String)) : Value :=
  .array (ps.map fun p => .array [text p.1, text p.2])

def record (members : List (String × Value)) : Value :=
  .object (members.map fun m => (some m.1, m.2))

end Value

/-- A member that is there only if it has a value. -/
def member? (name : String) (value? : Option Value) : List (String × Value) :=
  (value?.map (name, ·)).toList

/-- A truth value that is there only if it differs from its default. -/
def flag? (name : String) (default value : Bool) : List (String × Value) :=
  member? name (if value = default then none else some (.bool value))

def escapeChar (c : Char) : List Char :=
  if c = '"' then ['\\', '"']
  else if c = '\\' then ['\\', '\\']
  else if c = '\x08' then ['\\', 'b']
  else if c = '\x0c' then ['\\', 'f']
  else if c = '\n' then ['\\', 'n']
  else if c = '\r' then ['\\', 'r']
  else if c = '\t' then ['\\', 't']
  else if c.toNat < 0x20 then
    ['\\', 'u', '0', '0', lowerHex (c.toNat / 16), lowerHex (c.toNat % 16)]
  else [c]

def quoteChars (cs : List Char) : List Char :=
  '"' :: (cs.flatMap escapeChar ++ ['"'])

def quote (s : String) : String :=
  String.ofList (quoteChars s.toList)

/-- A string that is no text is written as one surrogate. -/
def stringChars : Option String → List Char
  | some s => quoteChars s.toList
  | none => ['"', '\\', 'u', 'd', '8', '0', '0', '"']

namespace Value

mutual

def chars : Value → List Char
  | .null => ['n', 'u', 'l', 'l']
  | .bool true => ['t', 'r', 'u', 'e']
  | .bool false => ['f', 'a', 'l', 's', 'e']
  | .number numeral => numeral.toList
  | .string text? => stringChars text?
  | .array items => '[' :: (itemChars items ++ [']'])
  | .object members => '\x7b' :: (memberChars members ++ ['\x7d'])

def itemChars : List Value → List Char
  | [] => []
  | [v] => chars v
  | v :: vs => chars v ++ ',' :: itemChars vs

def memberChars : List (Option String × Value) → List Char
  | [] => []
  | [(name, v)] => stringChars name ++ ':' :: chars v
  | (name, v) :: ms => stringChars name ++ ':' :: (chars v ++ ',' :: memberChars ms)

end

def compact (v : Value) : String :=
  String.ofList v.chars

end Value

end PageListeners.Json
