import PageListeners.Address
import PageListeners.Page.Hierarchy

/-!
# Callback URLs

A callback URL carries the page's parameters, the address of the listener and, unless the page is
stateless, the page's id.
-/

namespace PageListeners

namespace Settings

/-- The parameters without the two names that callback URLs use for themselves. -/
def unreserved (s : Settings) (parameters : Parameters) : Parameters :=
  (parameters.remove s.listenerParam).remove s.pageParam

end Settings

namespace Page

/-- The parameters of a callback URL for the given address. -/
def callbackParameters (p : Page) (settings : Settings) (a : Address) : Parameters :=
  let addressed := (settings.unreserved p.parameters).set settings.listenerParam a.text
  if p.isStateless then addressed else addressed.set settings.pageParam (toString p.id)

/-- The query of the callback URL for the behavior at `index` on a component. -/
def callbackQuery (p : Page) (settings : Settings) (h : Handle) (index : Nat) :
    Except Error String :=
  match p.path? h with
  | none => .error (.componentNotFound (.carrier h))
  | some path => .ok (p.callbackParameters settings ⟨path, index⟩).toQuery

def callbackUrl (p : Page) (settings : Settings) (h : Handle) (index : Nat) :
    Except Error String :=
  (p.callbackQuery settings h index).map fun query => settings.callbackPath ++ "?" ++ query

end Page

end PageListeners
