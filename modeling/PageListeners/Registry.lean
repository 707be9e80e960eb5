import PageListeners.Entries

/-!
# Delegation registry

How many delegators of a page are bound to each event. A stored zero and an absent entry count the
same.
-/

namespace PageListeners

structure Registry where
  entries : List (String × Nat) := []
  deriving DecidableEq, Repr, Inhabited

namespace Registry

def count (r : Registry) (event : String) : Nat :=
  (r.entries.lookup event).getD 0

def isRegistered (r : Registry) (event : String) : Bool :=
  0 < r.count event

def erase (r : Registry) (event : String) : Registry :=
  ⟨r.entries.filter (·.1 ≠ event)⟩

def set (r : Registry) (event : String) (count : Nat) : Registry :=
  ⟨(event, count) :: (r.erase event).entries⟩

def register (r : Registry) (event : String) : Registry :=
  r.set event (r.count event + 1)

/-- The last registration of an event takes its entry along. -/
def unregister (r : Registry) (event : String) : Registry :=
  if 1 < r.count event then r.set event (r.count event - 1) else r.erase event

def isEmpty (r : Registry) : Bool :=
  r.entries.isEmpty

/-- The entries in the order of their events. -/
def sorted (r : Registry) : List (String × Nat) :=
  r.entries.mergeSort (·.1 ≤ ·.1)

theorem count_erase (r : Registry) (event e : String) :
    (r.erase event).count e = if e = event then 0 else r.count e := by
  rw [count, erase, lookup_filter_ne]
  split <;> rfl

theorem count_set (r : Registry) (event : String) (n : Nat) (e : String) :
    (r.set event n).count e = if e = event then n else r.count e := by
  rw [count, set, erase, lookup_cons_filter_ne]
  split <;> rfl

theorem count_register (r : Registry) (event e : String) :
    (r.register event).count e = r.count e + if e = event then 1 else 0 := by
  simp only [register, count_set]
  split <;> simp_all

theorem count_unregister (r : Registry) (event e : String) :
    (r.unregister event).count e = r.count e - if e = event then 1 else 0 := by
  unfold unregister
  split
  · simp only [count_set]
    split <;> simp_all
  · simp only [count_erase]
    split <;> simp_all

end Registry

end PageListeners
