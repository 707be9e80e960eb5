import PageListeners.Resolution

/-!
# Rendered heads

The pass goes over the visible components, depth first. A component's listeners are resolved
before its children are entered; its delegators write their scripts after the children are done,
when everything below had its chance to contribute.
-/

namespace PageListeners

/-- The two moments at which the pass works on a component. -/
inductive Visit where
  | enter (h : Handle)
  | leave (h : Handle)
  deriving DecidableEq, Repr

namespace Page

/-- The way over a component and everything visible below it, at most `depth` levels. -/
def visitsWithin (p : Page) : Nat → Handle → List Visit
  | 0, _ => []
  | depth + 1, h =>
    match p.component? h with
    | none => []
    | some c =>
      if c.visible then .enter h :: (c.children.flatMap (p.visitsWithin depth) ++ [.leave h])
      else []

/-- No branch is longer than the number of slots. -/
def visits (p : Page) : List Visit :=
  p.visitsWithin p.slots.size root

end Page

namespace Rendering

def resolveListener (p : Page) (site : Site) : Rendering (Site × Resolution) := do
  return (site, ← resolve p site)

def flushDelegator (c : Component) (target : Site) (d : Delegator) : Rendering Unit := do
  let contributions ← collect target
  match d.script? (← get).settings c.markupId contributions with
  | some script => addReady script
  | none => return

/-- The resolutions made during a visit. -/
def visit (p : Page) : Visit → Rendering (List (Site × Resolution))
  | .enter h =>
    match p.component? h with
    | none => return []
    | some c => c.listeners.mapM fun l => resolveListener p ⟨h, l.1⟩
  | .leave h =>
    match p.component? h with
    | none => return []
    | some c => do
      c.delegators.forM fun d => flushDelegator c ⟨h, d.1⟩ d.2
      return []

def visitAll (p : Page) : Rendering (List (Site × Resolution)) := do
  return (← p.visits.mapM (visit p)).flatten

end Rendering

/-- The head of a page and where each listener on a visible component went, in the order in which
they were resolved. -/
structure RenderedHead where
  head : Head
  resolutions : List (Site × Resolution)

namespace RenderedHead

def resolution? (r : RenderedHead) (site : Site) : Option Resolution :=
  r.resolutions.lookup site

end RenderedHead

namespace Page

def renderHead (p : Page) (settings : Settings) : Except Error RenderedHead :=
  match (Rendering.visitAll p).apply { settings := settings } with
  | (.ok resolutions, s) => .ok ⟨s.head, resolutions⟩
  | (.error e, _) => .error e

end Page

end PageListeners
