import PageListeners.Json.Value

/-!
# Request attributes

What the client has to know of one listener: where the request goes, which element and events
start it, and how the browser's event is treated. The JSON payload has short names and leaves out
what equals its default.
-/

namespace PageListeners

inductive Method where
  | get
  | post
  deriving DecidableEq, Repr

/-- What becomes of the browser's event once the listener ran. -/
inductive Propagation where
  | bubble
  | stop
  | stopImmediate
  deriving DecidableEq, Repr

/-- A limit on how often a repeated event is sent. -/
structure Throttle where
  /-- Shared by the listeners that are limited together. -/
  id : String
  /-- In milliseconds. -/
  delay : Nat
  /-- Every further event starts the delay anew. -/
  postpone : Bool := false
  deriving DecidableEq, Repr

structure RequestAttributes where
  url : String := ""
  markupId : String := ""
  eventNames : List String := []
  method : Method := .get
  /-- The queue of the client in which the request waits. -/
  channel : Option String := none
  preventDefault : Bool := false
  propagation : Propagation := .bubble
  /-- In milliseconds. -/
  timeout : Option Nat := none
  throttle : Option Throttle := none
  /-- The element that is shown while the request runs. -/
  indicatorId : Option String := none
  allowDefault : Bool := false
  /-- One value for each name, in the order of the names. -/
  extraParameters : List (String × String) := []
  asynchronous : Bool := true
  dataType : Option String := none
  deriving DecidableEq, Repr, Inhabited

namespace RequestAttributes

/-- Puts an entry into its place in the order of names, instead of the one with its name. -/
def insertExtra (name value : String) : List (String × String) → List (String × String)
  | [] => [(name, value)]
  | e :: es =>
    if name < e.1 then (name, value) :: e :: es
    else if name = e.1 then (name, value) :: es
    else e :: insertExtra name value es

def withExtra (a : RequestAttributes) (name value : String) : RequestAttributes :=
  { a with extraParameters := insertExtra name value a.extraParameters }

def withEvent (a : RequestAttributes) (event : String) : RequestAttributes :=
  { a with eventNames := [event] }

end RequestAttributes

namespace Method

def payload? : Method → Option Json.Value
  | get => none
  | post => some (.text "POST")

end Method

namespace Propagation

def payload? : Propagation → Option Json.Value
  | bubble => none
  | stop => some (.text "stop")
  | stopImmediate => some (.text "stopImmediate")

end Propagation

namespace Throttle

def payload (t : Throttle) : Json.Value :=
  .record ([("id", .text t.id), ("d", .nat t.delay)] ++ Json.flag? "p" false t.postpone)

end Throttle

namespace RequestAttributes

/-- One text for each name of a list that is not empty. -/
def extraPayload? (entries : List (String × String)) : Option Json.Value :=
  if entries = [] then none else some (.record (entries.map fun e => (e.1, .text e.2)))

/-- The event names make one text, with a space between two of them. -/
def payload (a : RequestAttributes) : Json.Value :=
  .record <|
    [("u", .text a.url), ("c", .text a.markupId),
      ("e", .text (String.intercalate " " a.eventNames))] ++
    Json.member? "m" a.method.payload? ++
    Json.member? "ch" (a.channel.map .text) ++
    Json.flag? "pd" false a.preventDefault ++
    Json.member? "sp" a.propagation.payload? ++
    Json.member? "rt" (a.timeout.map .nat) ++
    Json.member? "tr" (a.throttle.map Throttle.payload) ++
    Json.member? "i" (a.indicatorId.map .text) ++
    Json.flag? "ad" false a.allowDefault ++
    Json.member? "ep" (extraPayload? a.extraParameters) ++
    Json.flag? "async" true a.asynchronous ++
    Json.member? "dt" (a.dataType.map .text)

def json (a : RequestAttributes) : String :=
  a.payload.compact

end RequestAttributes

end PageListeners
