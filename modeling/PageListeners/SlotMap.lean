import PageListeners.Entries
import PageListeners.Text.Quoted

/-!
# Values of several kinds under names

A slot is a name together with a kind, so that one name can stand for a value of each kind. The map
does not know what kinds there are: it stores every value together with its kind, and a value that
is taken out is compared with the kind that its slot is of.
-/

namespace PageListeners

structure Slot (κ : Type) where
  name : String
  kind : κ
  deriving DecidableEq, Repr

/-- The text in which a slot's name is shown. -/
def Slot.describe {κ : Type} (s : Slot κ) : String :=
  "MetaDataKey \x7b name: " ++ Text.quoted s.name ++ " \x7d"

/-- A value that says of itself what kind it is of. -/
structure Boxed {κ : Type} (Carrier : κ → Type) where
  kind : κ
  value : Carrier kind

/-- Slots with what is stored in them. The type does not say that a value is of its slot's kind. -/
structure SlotMap {κ : Type} (Carrier : κ → Type) where
  entries : List (Slot κ × Boxed Carrier) := []

section

variable {κ : Type} [DecidableEq κ] {Carrier : κ → Type}

/-- The value, if it is of the kind that is asked for. -/
def Boxed.as? (b : Boxed Carrier) (k : κ) : Option (Carrier k) :=
  if h : b.kind = k then some (h ▸ b.value) else none

@[simp] theorem Boxed.as?_mk (k : κ) (v : Carrier k) :
    (Boxed.mk k v : Boxed Carrier).as? k = some v := by
  simp [as?]

namespace SlotMap

/-- What is stored in a slot, whatever its kind. -/
def box? (m : SlotMap Carrier) (s : Slot κ) : Option (Boxed Carrier) :=
  m.entries.lookup s

def put (m : SlotMap Carrier) (s : Slot κ) (b : Boxed Carrier) : SlotMap Carrier :=
  ⟨(s, b) :: m.entries.filter (·.1 ≠ s)⟩

def erase (m : SlotMap Carrier) (s : Slot κ) : SlotMap Carrier :=
  ⟨m.entries.filter (·.1 ≠ s)⟩

theorem box?_put (m : SlotMap Carrier) (s t : Slot κ) (b : Boxed Carrier) :
    (m.put s b).box? t = if t = s then some b else m.box? t :=
  lookup_cons_filter_ne m.entries s t b

theorem box?_erase (m : SlotMap Carrier) (s t : Slot κ) :
    (m.erase s).box? t = if t = s then none else m.box? t :=
  lookup_filter_ne m.entries s t

def get? (m : SlotMap Carrier) (s : Slot κ) : Option (Carrier s.kind) :=
  (m.box? s).bind (·.as? s.kind)

/-- Stores a value and gives the one that was there. -/
def set (m : SlotMap Carrier) (s : Slot κ) (v : Carrier s.kind) :
    Option (Carrier s.kind) × SlotMap Carrier :=
  (m.get? s, m.put s ⟨s.kind, v⟩)

/-- Changes the value of a slot, if there is one, and gives it as it is then. -/
def update (m : SlotMap Carrier) (s : Slot κ) (f : Carrier s.kind → Carrier s.kind) :
    Option (Carrier s.kind) × SlotMap Carrier :=
  match m.get? s with
  | some v => (some (f v), m.put s ⟨s.kind, f v⟩)
  | none => (none, m)

/-- Stores `blank` in a slot that has nothing stored, and then changes the value of the slot. -/
def updateOr (m : SlotMap Carrier) (s : Slot κ) (blank : Carrier s.kind)
    (f : Carrier s.kind → Carrier s.kind) : Option (Carrier s.kind) × SlotMap Carrier :=
  match m.box? s with
  | some _ => m.update s f
  | none => (m.put s ⟨s.kind, blank⟩).update s f

/-- Empties a slot and gives the value that was there. -/
def remove (m : SlotMap Carrier) (s : Slot κ) : Option (Carrier s.kind) × SlotMap Carrier :=
  (m.get? s, m.erase s)

def contains (m : SlotMap Carrier) (s : Slot κ) : Bool :=
  (m.box? s).isSome

end SlotMap

end

namespace SlotMap

variable {κ : Type} {Carrier : κ → Type}

def size (m : SlotMap Carrier) : Nat :=
  m.entries.length

def isEmpty (m : SlotMap Carrier) : Bool :=
  m.entries.isEmpty

/-- The names of the occupied slots, each as often as it has slots, in the order of their
characters. -/
def names (m : SlotMap Carrier) : List String :=
  (m.entries.map (·.1.name)).mergeSort (· ≤ ·)

def describe (m : SlotMap Carrier) : String :=
  "MetaDataMap \x7b keys: " ++ Text.quotedList m.names ++ " \x7d"

end SlotMap

end PageListeners
