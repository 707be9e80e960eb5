import PageListeners.Page.Basic

/-!
# The component tree

The way from a component up to the page, and from the page down along a path. A path is the ids of
the components below the page with `:` between two of them.
-/

namespace PageListeners.Page

/-- The component, its parent and so on up to the page; `none` if one of them is not live. A
parent is older than its children, so its handle is smaller. -/
def lineage? (p : Page) (h : Handle) : Option (List (Handle × Component)) :=
  match p.component? h with
  | none => none
  | some c =>
    match c.parent with
    | none => some [(h, c)]
    | some parent => if parent < h then (p.lineage? parent).map ((h, c) :: ·) else none
termination_by h

/-- The components above `h`, nearest first, without the page. -/
def ancestors (p : Page) (h : Handle) : List (Handle × Component) :=
  ((p.lineage? h).getD []).tail.dropLast

/-- The component and all above it, the page included, are live and satisfy `q`. -/
def holdsUpward (p : Page) (q : Component → Bool) (h : Handle) : Bool :=
  (p.lineage? h).any (·.all (q ·.2))

def isEnabled (p : Page) (h : Handle) : Bool :=
  p.holdsUpward (·.enabled) h

def isVisible (p : Page) (h : Handle) : Bool :=
  p.holdsUpward (·.visible) h

def joinPath (ids : List String) : String :=
  String.intercalate ":" ids

def splitPath (path : String) : List String :=
  (path.toList.splitOn ':').map String.ofList

/-- The page has the empty path. -/
def path? (p : Page) (h : Handle) : Option String :=
  (p.lineage? h).map fun line => joinPath (line.dropLast.map (·.2.id)).reverse

/-- Goes down from a component, one id a step. -/
def descend? (p : Page) : Handle → List String → Option Handle
  | h, [] => some h
  | h, id :: ids =>
    match p.component? h with
    | none => none
    | some c =>
      match p.childNamed? c id with
      | none => none
      | some child => p.descend? child ids

def find? (p : Page) (path : String) : Option Handle :=
  if path = "" then some root else p.descend? root (splitPath path)

/-- The component and everything below it, each before its children, at most `depth` levels. -/
def subtreeWithin (p : Page) : Nat → Handle → List Handle
  | 0, _ => []
  | depth + 1, h =>
    match p.component? h with
    | none => []
    | some c => h :: c.children.flatMap (p.subtreeWithin depth)

/-- No branch is longer than the number of slots. -/
def subtree (p : Page) (h : Handle) : List Handle :=
  p.subtreeWithin p.slots.size h

end PageListeners.Page
