import PageListeners.Callback
import PageListeners.Pass

/-!
# Resolving listeners

During one pass over a page each listener is resolved: it is suppressed if its component is
disabled, handed to a delegator if there is one, and else bound by a script of its own.
-/

namespace PageListeners

inductive Resolution where
  | suppressed
  | delegated (target : Site)
  | direct
  deriving DecidableEq, Repr

namespace Page

/-- The listener at a site. -/
def listenerOn (p : Page) (site : Site) : Except Error (Component × Listener) :=
  match p.component? site.component with
  | none => .error (.componentNotFound (.carrier site.component))
  | some c =>
    let path := (p.path? site.component).getD ""
    match c.behaviors[site.index]? with
    | none => .error (.behaviorNotFound path site.index)
    | some b =>
      match b.listener? with
      | none => .error (.notAListener path site.index)
      | some l => .ok (c, l)

/-- The payload that binds a listener. -/
def payload (p : Page) (settings : Settings) (site : Site) (c : Component) (l : Listener) :
    Except Error String :=
  (p.callbackUrl settings site.component site.index).map fun url =>
    (l.attributes settings url c.markupId).json

/-- The delegator that takes a listener of `event`, where delegation is on. -/
def delegationTarget? (p : Page) (settings : Settings) (h : Handle) (event : String) :
    Option Site :=
  if settings.delegationEnabled then p.delegatorFor? h event else none

end Page

namespace Rendering

def resolve (p : Page) (site : Site) : Rendering Resolution := do
  let (c, l) ← p.listenerOn site
  if !p.isEnabled site.component then return .suppressed
  let settings := (← get).settings
  let payload ← p.payload settings site c l
  match p.delegationTarget? settings site.component l.event with
  | some target =>
    contribute target ⟨c.markupId, payload⟩
    return .delegated target
  | none =>
    addReady (Listener.script settings payload)
    return .direct

end Rendering

end PageListeners
