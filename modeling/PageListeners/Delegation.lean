import PageListeners.Page.Hierarchy

/-!
# Delegation

A delegator stands in for the listeners of its event below its component. Each of them contributes
its markup id and payload, and one script binds them all.
-/

namespace PageListeners

/-- A place for a behavior: a component and an index there. -/
structure Site where
  component : Handle
  index : Nat
  deriving DecidableEq, Repr

/-- What a listener hands to its delegator. -/
structure Contribution where
  markupId : String
  payload : String
  deriving DecidableEq, Repr

namespace Contribution

/-- The payload under the markup id, as a member of an object. -/
def member (c : Contribution) : String :=
  Json.quote c.markupId ++ ":" ++ c.payload

end Contribution

namespace Delegator

/-- The arguments of the call that binds one listener on a container for all contributions. -/
def arguments (d : Delegator) (markupId : String) (contributions : List Contribution) : String :=
  Json.quote markupId ++ ", " ++ Json.quote d.event ++ ", \x7b" ++
    String.intercalate "," (contributions.map Contribution.member) ++ "\x7d"

/-- Without contributions there is nothing to bind. -/
def script? (d : Delegator) (settings : Settings) (markupId : String)
    (contributions : List Contribution) : Option String :=
  if contributions = [] then none
  else some (settings.clientNamespace ++ ".Event.delegate(" ++ d.arguments markupId contributions ++
    ");")

end Delegator

/-- What the delegators of a page received so far. -/
structure Contributions where
  entries : List (Site × List Contribution) := []
  deriving DecidableEq, Repr, Inhabited

namespace Contributions

def get (cs : Contributions) (target : Site) : List Contribution :=
  (cs.entries.lookup target).getD []

def erase (cs : Contributions) (target : Site) : Contributions :=
  ⟨cs.entries.filter (·.1 ≠ target)⟩

def add (cs : Contributions) (target : Site) (c : Contribution) : Contributions :=
  ⟨(target, cs.get target ++ [c]) :: (cs.erase target).entries⟩

def isEmpty (cs : Contributions) : Bool :=
  cs.entries.isEmpty

theorem get_erase (cs : Contributions) (target t : Site) :
    (cs.erase target).get t = if t = target then [] else cs.get t := by
  rw [get, erase, lookup_filter_ne]
  split <;> rfl

theorem get_add (cs : Contributions) (target : Site) (c : Contribution) (t : Site) :
    (cs.add target c).get t = if t = target then cs.get target ++ [c] else cs.get t := by
  rw [get, add, erase, lookup_cons_filter_ne]
  split <;> rfl

end Contributions

namespace Page

/-- The first delegator for an event on the nearest component above `h` that has one, the page not
counting. The registry tells when there is none at all. -/
def delegatorFor? (p : Page) (h : Handle) (event : String) : Option Site :=
  if p.delegations.isRegistered event then
    (p.ancestors h).findSome? fun a => (a.2.delegatorFor? event).map (Site.mk a.1)
  else none

end Page

end PageListeners
