import PageListeners.Toml.Quoted
import PageListeners.Toml.Scalar
import PageListeners.Toml.Table

/-!
# TOML documents

Keys, values and lines of a document, read over lists of characters.
-/

namespace PageListeners.Toml

/-- Arrays and tables inside values may be nested this deep, and a path may have this many keys. -/
def depthLimit : Nat := 80

def skipComment : List Char → List Char
  | '#' :: cs => cs.dropWhile isVisible
  | cs => cs

/-- Takes off the rest of a line and whole lines that hold spaces and comments only, at most
`count` of them. -/
def skipTrivia : Nat → List Char → List Char
  | 0, cs => cs
  | count + 1, cs =>
    let rest := skipComment (skipSpaces cs)
    match afterNewline? rest with
    | some rest => skipTrivia count rest
    | none => rest

def skipAll (cs : List Char) : List Char :=
  skipTrivia (cs.length + 1) cs

def isBareKeyChar (c : Char) : Bool :=
  c.isAlphanum || c == '_' || c == '-'

/-- A single key, bare or in quotes of one line. -/
def simpleKey? : List Char → Option (String × List Char)
  | '"' :: cs => (basicLine? cs).map fun r => (String.ofList r.1, r.2)
  | '\'' :: cs => (literalLine? cs).map fun r => (String.ofList r.1, r.2)
  | cs =>
    match cs.takeWhile isBareKeyChar with
    | [] => none
    | key => some (String.ofList key, cs.dropWhile isBareKeyChar)

/-- Keys with a dot between two of them, at most `count` of them, and what follows the spaces
behind them. -/
def keys? : Nat → List Char → Option (List String × List Char)
  | 0, _ => none
  | count + 1, cs =>
    match simpleKey? (skipSpaces cs) with
    | none => none
    | some (key, rest) =>
      match skipSpaces rest with
      | '.' :: rest => (keys? count rest).map fun r => (key :: r.1, r.2)
      | rest => some ([key], rest)

def keyPath? (cs : List Char) : Option (List String × List Char) :=
  keys? depthLimit cs

/-- A scalar without quotes ends where a mark of the document's structure stands. -/
def isScalarChar (c : Char) : Bool :=
  !isSpace c && !(['=', ',', '[', ']', '\x7b', '\x7d', '#', '\r', '\n'].contains c)

def takeScalar (cs : List Char) : List Char × List Char :=
  (cs.takeWhile isScalarChar, cs.dropWhile isScalarChar)

/-- A time may follow its date behind one space. -/
def scalarText (cs : List Char) : List Char × List Char :=
  let (front, rest) := takeScalar cs
  match rest with
  | ' ' :: c :: more =>
    if afterDate? front = some [] ∧ c.isDigit then
      let (time, rest) := takeScalar (c :: more)
      (front ++ ' ' :: time, rest)
    else (front, rest)
  | _ => (front, rest)

/-- Keys, an equals sign and what follows it. `skipGap` passes over what may stand on both sides of
the sign. -/
def keysAndEquals? (skipGap : List Char → List Char) (cs : List Char) :
    Option (List String × List Char) :=
  match keyPath? cs with
  | none => none
  | some (keys, rest) =>
    match skipGap rest with
    | '=' :: rest => some (keys, skipGap rest)
    | _ => none

mutual

/-- The value at the front of a text. `fuel` bounds the steps, `depth` the levels that may still
open. -/
def value? : Nat → Nat → List Char → Option (Value × List Char)
  | 0, _, _ => none
  | fuel + 1, depth, cs =>
    match cs with
    | '"' :: _ => (quoted? cs).map fun r => (.text r.1, r.2)
    | '\'' :: _ => (quoted? cs).map fun r => (.text r.1, r.2)
    | '[' :: rest =>
      match depth with
      | 0 => none
      | depth + 1 => (items? fuel depth (skipAll rest)).map fun r => (.array r.1, r.2)
    | '\x7b' :: rest =>
      match depth with
      | 0 => none
      | depth + 1 =>
        (members? fuel depth [] (skipAll rest)).map fun r => (.table (entryValues r.1), r.2)
    | _ =>
      let (text, rest) := scalarText cs
      (scalar? text).map (·, rest)

/-- The items of an array up to its closing bracket. A comma may follow the last one. -/
def items? : Nat → Nat → List Char → Option (List Value × List Char)
  | 0, _, _ => none
  | _ + 1, _, ']' :: rest => some ([], rest)
  | fuel + 1, depth, cs =>
    match value? fuel depth cs with
    | none => none
    | some (v, rest) =>
      match skipAll rest with
      | ',' :: rest => (items? fuel depth (skipAll rest)).map fun r => (v :: r.1, r.2)
      | ']' :: rest => some ([v], rest)
      | _ => none

/-- The entries of a table inside a value up to its closing brace. Lines may end around every mark
but the dots of a key, and a comma may follow the last entry. -/
def members? : Nat → Nat → Entries → List Char → Option (Entries × List Char)
  | 0, _, _, _ => none
  | _ + 1, _, es, '\x7d' :: rest => some (es, rest)
  | fuel + 1, depth, es, cs =>
    match keysAndEquals? skipAll cs with
    | none => none
    | some (keys, rest) =>
      match value? fuel depth rest with
      | none => none
      | some (v, rest) =>
        match put? v keys es with
        | none => none
        | some es =>
          match skipAll rest with
          | ',' :: rest => members? fuel depth es (skipAll rest)
          | '\x7d' :: rest => some (es, rest)
          | _ => none

end

/-- A document as far as it has been read: its entries and the path of the last header. -/
structure Progress where
  entries : Entries := []
  path : List String := []

/-- What follows the end of a line, which may hold spaces and a comment. -/
def endOfLine? (cs : List Char) : Option (List Char) :=
  match skipComment (skipSpaces cs) with
  | [] => some []
  | rest => afterNewline? rest

/-- One line, or several where a value spans them. -/
def line? (d : Progress) (cs : List Char) : Option (Progress × List Char) :=
  match skipSpaces cs with
  | '[' :: '[' :: rest =>
    match keyPath? rest with
    | some (path, ']' :: ']' :: rest) =>
      (openItem? path d.entries).map fun es => (⟨es, path⟩, rest)
    | _ => none
  | '[' :: rest =>
    match keyPath? rest with
    | some (path, ']' :: rest) => (openTable? path d.entries).map fun es => (⟨es, path⟩, rest)
    | _ => none
  | rest =>
    if rest = [] ∨ rest.head? = some '#' ∨ (afterNewline? rest).isSome then some (d, rest)
    else
      match keysAndEquals? skipSpaces rest with
      | none => none
      | some (keys, rest) =>
        match value? (2 * rest.length + 2) depthLimit rest with
        | none => none
        | some (v, rest) =>
          (inSection? (put? v keys) d.path d.entries).map fun es => ({ d with entries := es }, rest)

/-- All lines of a text; each has a character at least. -/
def lines? : Nat → Progress → List Char → Option Progress
  | 0, _, _ => none
  | _ + 1, d, [] => some d
  | fuel + 1, d, cs =>
    match line? d cs with
    | none => none
    | some (d, rest) =>
      match endOfLine? rest with
      | none => none
      | some rest => lines? fuel d rest

/-- A byte order mark in front of the document is passed over. -/
def dropMark : List Char → List Char
  | '\uFEFF' :: cs => cs
  | cs => cs

/-- The entries of a document. -/
def read? (s : String) : Option (List (String × Value)) :=
  let cs := dropMark s.toList
  (lines? (cs.length + 1) {} cs).map (entryValues ·.entries)

end PageListeners.Toml
