import PageListeners.Json.Reader
import PageListeners.Query
import PageListeners.Text.Numeral

/-!
# Page parameters

Named values in the order in which they came; a name may stand more than once. They travel as
query text and as JSON.
-/

namespace PageListeners

structure Parameters where
  entries : List (String × String) := []
  deriving DecidableEq, Repr, Inhabited

namespace Parameters

/-- The first value of `key`. -/
def get? (p : Parameters) (key : String) : Option String :=
  (p.entries.find? (·.1 == key)).map (·.2)

def getAll (p : Parameters) (key : String) : List String :=
  (p.entries.filter (·.1 == key)).map (·.2)

/-- The first value of `key` as a scalar; an empty value counts as none. -/
def getAs? {α : Type} (p : Parameters) (key : String) (read : String → Option α) : Option α :=
  ((p.get? key).filter (· ≠ "")).bind read

def setEntry (key value : String) : List (String × String) → List (String × String)
  | [] => [(key, value)]
  | e :: es =>
    if e.1 = key then (key, value) :: es.filter (·.1 ≠ key) else e :: setEntry key value es

/-- One value instead of all values of `key`, where the first of them stood or else at the end. -/
def set (p : Parameters) (key value : String) : Parameters :=
  ⟨setEntry key value p.entries⟩

def add (p : Parameters) (key value : String) : Parameters :=
  ⟨p.entries ++ [(key, value)]⟩

def remove (p : Parameters) (key : String) : Parameters :=
  ⟨p.entries.filter (·.1 ≠ key)⟩

def contains (p : Parameters) (key : String) : Bool :=
  p.entries.any (·.1 == key)

def size (p : Parameters) : Nat :=
  p.entries.length

/-- Removes `key` and tells by the sizes whether there was anything to remove. -/
def withdraw (p : Parameters) (key : String) : Bool × Parameters :=
  let rest := p.remove key
  (p.size != rest.size, rest)

def isEmpty (p : Parameters) : Bool :=
  p.entries.isEmpty

def ofQuery (query : String) : Parameters :=
  ⟨Query.decode query⟩

def toQuery (p : Parameters) : String :=
  Query.encode p.entries

def toJson (p : Parameters) : Json.Value :=
  .record [("entries", .pairs p.entries)]

def pairOfJson? : Json.Value → Option (String × String)
  | .array [.string (some key), .string (some value)] => some (key, value)
  | _ => none

def entriesOfJson? : Json.Value → Option (List (String × String))
  | .array items => items.mapM pairOfJson?
  | _ => none

/-- The entries stand under their name, given once among members of any other name, or alone in an
array. -/
def ofJson? : Json.Value → Option Parameters
  | .array [entries] => (entriesOfJson? entries).map .mk
  | .object members =>
    if members.all (·.1.isSome) then
      match members.filter (·.1 == some "entries") with
      | [(_, entries)] => (entriesOfJson? entries).map .mk
      | _ => none
    else none
  | _ => none

end Parameters

end PageListeners
