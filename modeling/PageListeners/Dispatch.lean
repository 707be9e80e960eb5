import PageListeners.Callback
import PageListeners.Page.Edit

/-!
# Dispatch

A request names a listener in its query. It is let in if it carries the id of the page, which a
stateless page does not ask for, and the listener's component is visible and enabled. Only then the
handler runs, and only then the page takes over the parameters that the handler leaves.
-/

namespace PageListeners

namespace Page

/-- The address in a request. -/
def requestedAddress (settings : Settings) (request : Parameters) : Except Error Address :=
  match request.get? settings.listenerParam with
  | none => .error (.invalidListener (.missing settings.listenerParam))
  | some text => Address.parse text

/-- Why the page's id in a request, or its absence, turns the request away. -/
def pageRejection? (p : Page) (settings : Settings) (request : Parameters) : Option Rejection :=
  match request.get? settings.pageParam with
  | some id => if id = toString p.id then none else some (.expiredPage id)
  | none => if p.isStateless then none else some (.missingPage settings.pageParam)

/-- Why a component may not be asked. -/
def componentRejection? (p : Page) (h : Handle) : Option Rejection :=
  if !p.isVisible h then some .notVisible
  else if !p.isEnabled h then some .disabled
  else none

/-- The listener at an address. -/
def listenerAt (p : Page) (a : Address) : Except Error Listener :=
  match p.find? a.path with
  | none => .error (.componentNotFound (.path a.path))
  | some h =>
    match p.componentRejection? h with
    | some cause => .error (.listenerRejected a.path cause)
    | none =>
      match (p.component? h).bind (·.behaviors[a.index]?) with
      | none => .error (.behaviorNotFound a.path a.index)
      | some b =>
        match b.listener? with
        | none => .error (.notAListener a.path a.index)
        | some l => .ok l

/-- The listener that a request may invoke. -/
def authorize (p : Page) (settings : Settings) (request : Parameters) : Except Error Listener :=
  match requestedAddress settings request with
  | .error e => .error e
  | .ok a =>
    match p.pageRejection? settings request with
    | some cause => .error (.listenerRejected a.path cause)
    | none => p.listenerAt a

/-- Components that are not live are passed over. -/
def reply (p : Page) (d : Draft) : Reply :=
  { markupIds := d.marked.filterMap p.markupId?, scripts := d.scripts, parameters := d.parameters }

end Page

namespace Edit

def dispatch (settings : Settings) (query : String) : Edit Reply := do
  let p ← get
  let request := Parameters.ofQuery query
  match p.authorize settings request with
  | .error e => throw e
  | .ok l =>
    let draft := l.handler { parameters := settings.unreserved request }
    setParameters draft.parameters
    return p.reply draft

end Edit

end PageListeners
