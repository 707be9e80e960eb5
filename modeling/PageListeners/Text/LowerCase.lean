import PageListeners.Text.Cased
import PageListeners.Text.CaseIgnorable
import PageListeners.Text.SmallLetter

/-!
# Lower case

The full lower-case mapping. Two letters go their own way: the dotted capital I becomes two
characters, and a capital sigma takes its final form at the end of a word, where a cased letter
stands before it and none after it, case-ignorable characters not counting.
-/

namespace PageListeners.Text

/-- The first character that is not case-ignorable is cased. -/
def meetsCased (cs : List Char) : Bool :=
  (cs.dropWhile (inRanges caseIgnorableRanges)).head?.any (inRanges casedRanges)

/-- The form of a letter between two texts, of which the one before it is read backwards. -/
def smallForm (before : List Char) (c : Char) (after : List Char) : List Char :=
  if c = 'İ' then ['i', '\u0307']
  else if c = 'Σ' then [if meetsCased before && !meetsCased after then 'ς' else 'σ']
  else [smallLetter c]

def lowerFrom (before : List Char) : List Char → List Char
  | [] => []
  | c :: after => smallForm before c after ++ lowerFrom (c :: before) after

def lowerCase (s : String) : String :=
  String.ofList (lowerFrom [] s.toList)

@[simp] theorem toList_lowerCase (s : String) : (lowerCase s).toList = lowerFrom [] s.toList :=
  String.toList_ofList

/-- Small and capital forms of the letters `A` to `Z` count as one letter, all else is exact. -/
def sameButAsciiCase (s t : String) : Bool :=
  s.toList.map Char.toLower == t.toList.map Char.toLower

end PageListeners.Text
