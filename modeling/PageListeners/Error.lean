/-!
# Errors

The causes for which an operation is refused, and their wording.
-/

namespace PageListeners

/-- The number of a component's slot on its page; the page itself has the first. -/
abbrev Handle := Nat

/-- Why an argument is refused. -/
inductive BadArgument where
  | emptyEvent
  /-- Nothing is left of the event name behind its `on`. -/
  | bareEvent (event : String)
  | emptyComponentId
  | malformedComponentId (id : String)
  | pageRemoval
  | emptyMarkupId
  /-- A check of the caller speaks for itself. -/
  | refused (reason : String)
  deriving DecidableEq, Repr

/-- What did not lead to a component. -/
inductive Locator where
  /-- The component an operation works on. -/
  | component (h : Handle)
  /-- The component that carries an addressed listener. -/
  | carrier (h : Handle)
  | path (path : String)
  deriving DecidableEq, Repr

/-- Why a listener that exists may not be invoked. -/
inductive Rejection where
  | expiredPage (page : String)
  | missingPage (parameter : String)
  | notVisible
  | disabled
  deriving DecidableEq, Repr

/-- Why a request names no listener. -/
inductive BadListener where
  | missing (parameter : String)
  | noIndex (address : String)
  | badIndex (index : String)
  deriving DecidableEq, Repr

inductive Error where
  | invalidArgument (cause : BadArgument)
  | duplicateComponent (parent id : String)
  | duplicateMarkupId (markupId : String)
  | componentNotFound (locator : Locator)
  | behaviorNotFound (path : String) (index : Nat)
  | notAListener (path : String) (index : Nat)
  | listenerRejected (path : String) (cause : Rejection)
  | invalidListener (cause : BadListener)
  /-- A settings document that is malformed or gives a setting a value of another type. -/
  | malformedSettings
  /-- A settings file that is missing or not UTF-8. -/
  | unreadableSettings
  /-- A JSON text that is malformed or does not hold page parameters. -/
  | malformedJson
  deriving DecidableEq, Repr

def BadArgument.message : BadArgument → String
  | emptyEvent => "event must not be empty"
  | bareEvent event => s!"event '{event}' has no name after its 'on' prefix"
  | emptyComponentId => "component id must not be empty"
  | malformedComponentId id => s!"component id '{id}' must not contain whitespace or ':'"
  | pageRemoval => "the page cannot be removed"
  | emptyMarkupId => "markup id must not be empty"
  | refused reason => reason

def Locator.message : Locator → String
  | component h => s!"#{h}"
  | carrier h => s!"#ComponentId({h})"
  | path p => p

def Rejection.message : Rejection → String
  | expiredPage page => s!"page {page} has expired"
  | missingPage parameter => s!"missing '{parameter}' parameter"
  | notVisible => "component is not visible"
  | disabled => "component is disabled"

def BadListener.message : BadListener → String
  | missing parameter => s!"missing '{parameter}' parameter"
  | noIndex address => s!"'{address}' has no behavior index"
  | badIndex index => s!"'{index}' is not a behavior index"

/-- The wording where this library decides it. -/
def Error.message? : Error → Option String
  | invalidArgument cause => some ("Invalid argument: " ++ cause.message)
  | duplicateComponent parent id => some s!"Duplicate component id '{id}' under '{parent}'"
  | duplicateMarkupId markupId => some s!"Markup id '{markupId}' is already in use"
  | componentNotFound locator => some ("Component not found: " ++ locator.message)
  | behaviorNotFound path index => some s!"Behavior {index} not found on component '{path}'"
  | notAListener path index =>
    some s!"Behavior {index} on component '{path}' is not an event listener"
  | listenerRejected path cause => some s!"Listener on '{path}' rejected: {cause.message}"
  | invalidListener cause => some ("Invalid listener: " ++ cause.message)
  | malformedSettings | unreadableSettings | malformedJson => none

end PageListeners
