import PageListeners.Draft
import PageListeners.EventName
import PageListeners.RequestAttributes
import PageListeners.Settings
import PageListeners.Text.Quoted

/-!
# Behaviors

What can be attached to a component: a listener binds a handler to one event of its component, a
delegator on a container binds one listener for the components inside it.
-/

namespace PageListeners

structure Listener where
  event : String
  handler : Handler
  /-- A change to the attributes of each request. -/
  hook : Option (RequestAttributes → RequestAttributes) := none
  /-- Works without anything that the page keeps between two requests. -/
  stateless : Bool := false

namespace Listener

/-- The check sees the event as it was given, before its name is looked at. -/
def checked (event : String) (check : String → Except Error Unit) (handler : Handler) :
    Except Error Listener := do
  check event
  let name ← eventName event
  return { event := name, handler := handler }

def new (event : String) (handler : Handler) : Except Error Listener :=
  checked event (fun _ => .ok ()) handler

/-- The bound event wins over the hook. -/
def attributes (l : Listener) (settings : Settings) (url markupId : String) : RequestAttributes :=
  let plain : RequestAttributes :=
    { url := url, markupId := markupId, timeout := settings.defaultTimeout }
  ((l.hook.getD id) plain).withEvent l.event

/-- The call of the client that binds a listener with the given payload. -/
def script (settings : Settings) (payload : String) : String :=
  settings.clientNamespace ++ ".Ajax.ajax(" ++ payload ++ ");"

def describe (l : Listener) : String :=
  "AjaxEventBehavior \x7b event: " ++ Text.quoted l.event ++
    ", handler: \"<function>\", stateless: " ++ toString l.stateless ++ " \x7d"

end Listener

structure Delegator where
  event : String
  deriving DecidableEq, Repr

namespace Delegator

def new (event : String) : Except Error Delegator := do
  let name ← eventName event
  return { event := name }

def handles (d : Delegator) (event : String) : Bool :=
  Text.sameButAsciiCase d.event event

end Delegator

inductive Behavior where
  | listener (l : Listener)
  | delegator (d : Delegator)

namespace Behavior

def event : Behavior → String
  | listener l => l.event
  | delegator d => d.event

/-- A delegator needs nothing of the page. -/
def isStateless : Behavior → Bool
  | listener l => l.stateless
  | delegator _ => true

def listener? : Behavior → Option Listener
  | listener l => some l
  | delegator _ => none

def delegator? : Behavior → Option Delegator
  | listener _ => none
  | delegator d => some d

end Behavior

end PageListeners
