import PageListeners.Error
import PageListeners.Text.LowerCase

/-!
# Event names

An event is known by its name in lower case without one leading `on`.
-/

namespace PageListeners

/-- Takes one leading `on` off a name. -/
def dropOn : List Char → List Char
  | 'o' :: 'n' :: cs => cs
  | cs => cs

/-- The name by which `event` is known; a name that is empty or only `on` is refused. -/
def eventName (event : String) : Except Error String :=
  if event = "" then .error (.invalidArgument .emptyEvent)
  else
    match dropOn (Text.lowerCase event).toList with
    | [] => .error (.invalidArgument (.bareEvent event))
    | cs => .ok (String.ofList cs)

end PageListeners
