import PageListeners.Settings

/-!
# The page head

Scripts are collected in the order in which they come, each once. The head is one script element:
plain scripts first, then those that wait until the document is ready, inside one hook.
-/

namespace PageListeners

inductive HeadItem where
  /-- Runs once the document is ready. -/
  | ready (script : String)
  /-- Runs where the head stands. -/
  | plain (script : String)
  deriving DecidableEq, Repr

namespace HeadItem

def script : HeadItem → String
  | ready s => s
  | plain s => s

def ready? : HeadItem → Option String
  | ready s => some s
  | plain _ => none

def plain? : HeadItem → Option String
  | ready _ => none
  | plain s => some s

end HeadItem

/-- Puts a backslash into every `</`, so that no script text can end its element. -/
def escapeChars : List Char → List Char
  | '<' :: '/' :: cs => '<' :: '\\' :: '/' :: escapeChars cs
  | c :: cs => c :: escapeChars cs
  | [] => []

def escapeScript (script : String) : String :=
  String.ofList (escapeChars script.toList)

structure Head where
  items : List HeadItem := []
  deriving DecidableEq, Repr, Inhabited

namespace Head

/-- An item that is there already changes nothing. -/
def add (h : Head) (item : HeadItem) : Head :=
  if item ∈ h.items then h else ⟨h.items ++ [item]⟩

theorem items_add (h : Head) (item : HeadItem) :
    (h.add item).items = if item ∈ h.items then h.items else h.items ++ [item] := by
  unfold add
  split <;> rfl

/-- Adds an item and says whether it was not there before. -/
def offer (h : Head) (item : HeadItem) : Bool × Head :=
  (item ∉ h.items, h.add item)

def readyScripts (h : Head) : List String :=
  h.items.filterMap HeadItem.ready?

def plainScripts (h : Head) : List String :=
  h.items.filterMap HeadItem.plain?

def size (h : Head) : Nat :=
  h.items.length

def isEmpty (h : Head) : Bool :=
  h.items.isEmpty

/-- Each script on a line of its own. -/
def scriptLines (scripts : List String) : String :=
  String.join (scripts.map (· ++ "\n"))

/-- The hook that runs `scripts` once the document is ready; no scripts need no hook. -/
def readyHook (settings : Settings) (scripts : List String) : String :=
  if scripts = [] then ""
  else
    settings.clientNamespace ++ ".Event.add(window, \"domready\", function(event) \x7b\n" ++
      scriptLines scripts ++ "\x7d);\n"

/-- The text between the tags of the script element. -/
def body (h : Head) (settings : Settings) : String :=
  let text := scriptLines h.plainScripts ++ readyHook settings h.readyScripts
  if settings.escapeScripts then escapeScript text else text

def html (h : Head) (settings : Settings) : String :=
  if h.isEmpty then ""
  else "<script type=\"text/javascript\">\n" ++ h.body settings ++ "</script>"

end Head

end PageListeners
