import PageListeners.Change
import PageListeners.Page.Hierarchy
import PageListeners.Text.Blank

/-!
# Editing a page

The operations that change a page. A component is named by its handle, and an operation on a handle
that is not live is refused.
-/

namespace PageListeners

abbrev Edit := Change Page

namespace Page

/-- The text of a generated markup id. -/
def numbered (id : String) (n : Nat) : String :=
  id ++ "_" ++ toString n

/-- The least number from `nextNumber` on that gives a markup id which no component has. The live
components can take only as many of the candidates as there are of them. -/
def freeNumber (p : Page) (id : String) : Nat :=
  ((List.range' p.nextNumber (p.components.length + 1)).find?
    fun n => !p.usesMarkupId (numbered id n) none).getD p.nextNumber

/-- Empties a slot and takes the component's delegators out of the registry. -/
def discard (p : Page) (h : Handle) : Page :=
  match p.component? h with
  | none => p
  | some c =>
    { p with
      slots := p.slots.setIfInBounds h none
      delegations := c.delegators.foldl (fun r d => r.unregister d.2.event) p.delegations }

/-- Discards a component and everything below it. -/
def prune (p : Page) (h : Handle) : Page :=
  (p.subtree h).foldl discard p

end Page

namespace Edit

def component (h : Handle) : Edit Component := do
  match (← get).component? h with
  | some c => return c
  | none => throw (.componentNotFound (.component h))

def change (h : Handle) (f : Component → Component) : Edit Unit := do
  let _ ← component h
  modify (·.update h f)

theorem apply_component (p : Page) (h : Handle) :
    (component h).apply p =
      match p.component? h with
      | some c => (.ok c, p)
      | none => (.error (.componentNotFound (.component h)), p) := by
  simp only [component, Change.apply_bind, Change.apply_get]
  cases p.component? h <;> simp

theorem apply_change (p : Page) (h : Handle) (f : Component → Component) :
    (change h f).apply p =
      match p.component? h with
      | some _ => (.ok (), p.update h f)
      | none => (.error (.componentNotFound (.component h)), p) := by
  simp only [change, Change.apply_bind, apply_component]
  cases p.component? h <;> simp

def changeRegistry (f : Registry → Registry) : Edit Unit :=
  modify fun p => { p with delegations := f p.delegations }

/-- The path of a component as error texts show it. -/
def shownPath (h : Handle) : Edit String := do
  return ((← get).path? h).getD ""

def checkComponentId (id : String) : Edit Unit := do
  if id = "" then throw (.invalidArgument .emptyComponentId)
  if id.toList.any fun c => c == ':' || Text.isBlank c then
    throw (.invalidArgument (.malformedComponentId id))

/-- A markup id of the form `id_n` that was never generated before and that no component has. -/
def generateMarkupId (id : String) : Edit String := do
  let n := (← get).freeNumber id
  modify fun p => { p with nextNumber := n + 1 }
  return Page.numbered id n

def addComponent (parent : Handle) (id : String) : Edit Handle := do
  checkComponentId id
  let c ← component parent
  if ((← get).childNamed? c id).isSome then
    throw (.duplicateComponent (← shownPath parent) id)
  let markupId ← generateMarkupId id
  let h := (← get).slots.size
  let c : Component := { id := id, parent := some parent, markupId := markupId }
  modify fun p => { p with slots := p.slots.push (some c) }
  change parent fun c => { c with children := c.children ++ [h] }
  return h

/-- Removes a component with everything below it. -/
def removeComponent (h : Handle) : Edit Unit := do
  if h = Page.root then throw (.invalidArgument .pageRemoval)
  let c ← component h
  modify (·.prune h)
  if let some parent := c.parent then
    change parent fun c => { c with children := c.children.filter (· ≠ h) }

/-- Gives the index of the behavior on its component. The component's markup id is written from
now on, since the client has to find the element. -/
def attach (h : Handle) (b : Behavior) : Edit Nat := do
  let c ← component h
  if let .delegator d := b then changeRegistry (·.register d.event)
  change h fun c => { c with outputMarkupId := true, behaviors := c.behaviors ++ [b] }
  return c.behaviors.length

/-- The behaviors after the one that is taken away move up by one. -/
def detach (h : Handle) (index : Nat) : Edit Behavior := do
  let c ← component h
  match c.behaviors[index]? with
  | none => throw (.behaviorNotFound (← shownPath h) index)
  | some b =>
    change h fun c => { c with behaviors := c.behaviors.eraseIdx index }
    if let .delegator d := b then changeRegistry (·.unregister d.event)
    return b

def setEnabled (h : Handle) (enabled : Bool) : Edit Unit :=
  change h fun c => { c with enabled := enabled }

def setVisible (h : Handle) (visible : Bool) : Edit Unit :=
  change h fun c => { c with visible := visible }

def setOutputMarkupId (h : Handle) (output : Bool) : Edit Unit :=
  change h fun c => { c with outputMarkupId := output }

def setMarkupId (h : Handle) (markupId : String) : Edit Unit := do
  if markupId = "" then throw (.invalidArgument .emptyMarkupId)
  let _ ← component h
  if (← get).usesMarkupId markupId (some h) then throw (.duplicateMarkupId markupId)
  change h fun c => { c with markupId := markupId }

def setParameters (parameters : Parameters) : Edit Unit :=
  modify fun p => { p with parameters := parameters }

end Edit

end PageListeners
