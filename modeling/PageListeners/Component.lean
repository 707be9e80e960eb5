import PageListeners.Behavior

/-!
# Components

A node of a page's tree. Its children and its parent are named by their handles.
-/

namespace PageListeners

structure Component where
  /-- Unique among the children of one parent; empty for the page. -/
  id : String
  /-- The page has none. -/
  parent : Option Handle
  markupId : String
  /-- In the order in which they were added. -/
  children : List Handle := []
  enabled : Bool := true
  visible : Bool := true
  /-- Whether the markup id is written to the component's element. -/
  outputMarkupId : Bool := false
  behaviors : List Behavior := []

namespace Component

/-- The listeners with their indices among all behaviors. -/
def listeners (c : Component) : List (Nat × Listener) :=
  c.behaviors.zipIdx.filterMap fun b => b.1.listener?.map (b.2, ·)

/-- The delegators with their indices among all behaviors. -/
def delegators (c : Component) : List (Nat × Delegator) :=
  c.behaviors.zipIdx.filterMap fun b => b.1.delegator?.map (b.2, ·)

/-- The index of the first delegator for an event. -/
def delegatorFor? (c : Component) (event : String) : Option Nat :=
  (c.delegators.find? (·.2.handles event)).map (·.1)

end Component

end PageListeners
