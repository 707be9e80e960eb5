import PageListeners.Component
import PageListeners.Metadata
import PageListeners.Registry

/-!
# Pages

A page keeps its components in slots that are filled in the order of creation and never used
again, so that a handle means one component for ever. The first slot holds the page's own node.
-/

namespace PageListeners

structure Page where
  id : Nat
  /-- An empty slot belongs to a component that was removed. -/
  slots : Array (Option Component)
  delegations : Registry := {}
  metadata : Metadata := {}
  parameters : Parameters := {}
  /-- The next number that a generated markup id may get. -/
  nextNumber : Nat := 1

namespace Page

/-- The page's own node. -/
def root : Handle := 0

def rootNode (id : Nat) : Component :=
  { id := "", parent := none, markupId := "page" ++ toString id, outputMarkupId := true }

def new (id : Nat) (parameters : Parameters) : Page :=
  { id := id, slots := #[some (rootNode id)], parameters := parameters }

/-- The component of a handle, while it is part of the page. -/
def component? (p : Page) (h : Handle) : Option Component :=
  p.slots[h]?.join

def isLive (p : Page) (h : Handle) : Bool :=
  (p.component? h).isSome

/-- The live components in the order of their handles. -/
def components (p : Page) : List (Handle × Component) :=
  p.slots.toList.zipIdx.filterMap fun s => s.1.map (s.2, ·)

def markupId? (p : Page) (h : Handle) : Option String :=
  (p.component? h).map (·.markupId)

def parent? (p : Page) (h : Handle) : Option Handle :=
  (p.component? h).bind (·.parent)

/-- Whether a component, not counting `except?`, has the markup id. -/
def usesMarkupId (p : Page) (markupId : String) (except? : Option Handle) : Bool :=
  p.components.any fun c => some c.1 != except? && c.2.markupId == markupId

/-- A page all of whose behaviors are stateless can be built anew for each request. -/
def isStateless (p : Page) : Bool :=
  p.components.all fun c => c.2.behaviors.all Behavior.isStateless

/-- The first child of `c` with the given id. -/
def childNamed? (p : Page) (c : Component) (id : String) : Option Handle :=
  c.children.find? fun h => (p.component? h).any (·.id == id)

/-- Changes the component of a handle, if there is one. -/
def update (p : Page) (h : Handle) (f : Component → Component) : Page :=
  { p with slots := p.slots.modify h (·.map f) }

theorem component?_update (p : Page) (h : Handle) (f : Component → Component) (g : Handle) :
    (p.update h f).component? g =
      if g = h then (p.component? h).map f else p.component? g := by
  simp only [component?, update, Array.getElem?_modify]
  by_cases hg : g = h
  · subst hg
    simp only [if_true]
    cases p.slots[g]? with
    | none => rfl
    | some s => rfl
  · simp [hg, Ne.symm hg]

theorem mem_components {p : Page} {h : Handle} {c : Component} :
    (h, c) ∈ p.components ↔ p.component? h = some c := by
  simp only [components, component?, List.mem_filterMap, Option.map_eq_some_iff, Prod.mk.injEq,
    Option.join_eq_some_iff]
  constructor
  · rintro ⟨⟨s, i⟩, hs, c', hc, hi, rfl⟩
    have := List.mem_zipIdx hs
    simp_all
  · intro hc
    refine ⟨(some c, h), ?_, c, rfl, rfl, rfl⟩
    simpa [List.mem_zipIdx_iff_getElem?] using hc

end Page

end PageListeners
