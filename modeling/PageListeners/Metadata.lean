import PageListeners.SlotMap

/-!
# Metadata

The kinds of values that a page keeps under names.
-/

namespace PageListeners

inductive Kind where
  | word
  | integer
  | flag
  | text
  | texts
  deriving DecidableEq, Repr

/-- The values of each kind. -/
abbrev Kind.Carrier : Kind → Type
  | word => UInt32
  | integer => Int64
  | flag => Bool
  | text => String
  | texts => List String

/-- The value of each kind that counts as empty. -/
def Kind.blank : (k : Kind) → k.Carrier
  | word => 0
  | integer => 0
  | flag => false
  | text => ""
  | texts => []

abbrev Metadata := SlotMap Kind.Carrier

end PageListeners
