import PageListeners.Change
import PageListeners.Delegation
import PageListeners.Head

/-!
# Passes

A pass goes over a page once and collects what the listeners leave behind: items for the head, and
contributions for the delegators to pick up.
-/

namespace PageListeners

structure Pass where
  settings : Settings
  head : Head := {}
  contributions : Contributions := {}
  deriving Inhabited

abbrev Rendering := Change Pass

namespace Rendering

def addReady (script : String) : Rendering Unit :=
  modify fun s => { s with head := s.head.add (.ready script) }

def contribute (target : Site) (c : Contribution) : Rendering Unit :=
  modify fun s => { s with contributions := s.contributions.add target c }

/-- Takes out what a delegator received. -/
def collect (target : Site) : Rendering (List Contribution) := do
  let cs := (← get).contributions
  modify fun s => { s with contributions := cs.erase target }
  return cs.get target

end Rendering

end PageListeners
