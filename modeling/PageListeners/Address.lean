import PageListeners.Error
import PageListeners.Text.Numeral

/-!
# Listener addresses

The address of a listener is the path of its component, a colon and its index there, as in
`form:submit:0`. The last colon ends the path, which may be empty.
-/

namespace PageListeners

structure Address where
  path : String
  index : Nat
  deriving DecidableEq, Repr

/-- What stands before and behind the last `sep`. -/
def splitLast? (sep : Char) : List Char → Option (List Char × List Char)
  | [] => none
  | c :: cs =>
    match splitLast? sep cs with
    | some (front, back) => some (c :: front, back)
    | none => if c = sep then some ([], cs) else none

namespace Address

def text (a : Address) : String :=
  a.path ++ ":" ++ toString a.index

/-- An index is below `2 ^ 64`. -/
def parse (s : String) : Except Error Address :=
  match splitLast? ':' s.toList with
  | none => .error (.invalidListener (.noIndex s))
  | some (path, index) =>
    match Text.unsigned? 64 (String.ofList index) with
    | some n => .ok ⟨String.ofList path, n⟩
    | none => .error (.invalidListener (.badIndex (String.ofList index)))

end Address

end PageListeners
