import PageListeners.Error
import PageListeners.Parameters

/-!
# Answers to a request

A handler works on a draft: it marks components, appends scripts and changes the parameters. The
reply is what the client gets of it.
-/

namespace PageListeners

structure Draft where
  /-- The components to be shown anew, in the order of their first marking. -/
  marked : List Handle := []
  scripts : List String := []
  parameters : Parameters := {}
  deriving DecidableEq, Repr, Inhabited

namespace Draft

/-- A second marking changes nothing. -/
def mark (d : Draft) (h : Handle) : Draft :=
  if h ∈ d.marked then d else { d with marked := d.marked ++ [h] }

def markAll (d : Draft) (hs : List Handle) : Draft :=
  hs.foldl mark d

def appendScript (d : Draft) (script : String) : Draft :=
  { d with scripts := d.scripts ++ [script] }

end Draft

/-- The work of a listener when its event fires. -/
abbrev Handler := Draft → Draft

structure Reply where
  /-- The markup ids of the components to be shown anew. -/
  markupIds : List String := []
  scripts : List String := []
  parameters : Parameters := {}
  deriving DecidableEq, Repr, Inhabited

namespace Reply

def payload (r : Reply) : Json.Value :=
  .record [("components", .texts r.markupIds), ("scripts", .texts r.scripts),
    ("parameters", .pairs r.parameters.entries)]

def json (r : Reply) : String :=
  r.payload.compact

end Reply

end PageListeners
