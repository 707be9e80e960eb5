/-!
# Settings

How client scripts and callback URLs look, and which features are on.
-/

namespace PageListeners

structure Settings where
  /-- The client library's namespace in generated scripts. -/
  clientNamespace : String := "Eventwire"
  callbackPath : String := "./"
  /-- The query parameter that names the invoked listener. -/
  listenerParam : String := "_listener"
  /-- The query parameter that carries the id of a stateful page. -/
  pageParam : String := "_page"
  delegationEnabled : Bool := true
  /-- In milliseconds, for requests that set no timeout of their own. -/
  defaultTimeout : Option Nat := none
  escapeScripts : Bool := true
  deriving DecidableEq, Repr, Inhabited

end PageListeners
