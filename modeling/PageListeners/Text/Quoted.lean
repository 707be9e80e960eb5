import PageListeners.Text.DefaultIgnorable
import PageListeners.Text.GraphemeExtend
import PageListeners.Text.Unprintable

/-!
# Quoted text

Text between double quotes in which every character can be seen: quotes and backslashes are
escaped, and what has no printed form of its own is given by its code point.
-/

namespace PageListeners.Text

/-- The two halfwidth voicing marks are letters and have a place of their own in a line, although
they extend a grapheme. -/
def halfwidthVoicingRanges : List CodeRange := [(0xFF9E, 0xFF9F)]

/-- Marks that are seen only together with the character before them. -/
def isJoiningMark (c : Char) : Bool :=
  inRanges graphemeExtendRanges c && !inRanges halfwidthVoicingRanges c

def showsItself (c : Char) : Bool :=
  !inRanges unprintableRanges c && !inRanges defaultIgnorableRanges c && !isJoiningMark c

def quotedChar (c : Char) : List Char :=
  if c = '\x00' then ['\\', '0']
  else if c = '\t' then ['\\', 't']
  else if c = '\r' then ['\\', 'r']
  else if c = '\n' then ['\\', 'n']
  else if c = '"' then ['\\', '"']
  else if c = '\\' then ['\\', '\\']
  else if showsItself c then [c]
  else ['\\', 'u', '\x7b'] ++ Nat.toDigits 16 c.toNat ++ ['\x7d']

def quoted (s : String) : String :=
  String.ofList ('"' :: s.toList.flatMap quotedChar ++ ['"'])

/-- Quoted texts between square brackets. -/
def quotedList (texts : List String) : String :=
  "[" ++ String.intercalate ", " (texts.map quoted) ++ "]"

end PageListeners.Text
