import Mathlib.Data.Finmap
import PageListeners.InTurn
import PageListeners.Metadata
import PageListeners.Proofs.Entries

/-!
# Slots that never mix

A map stores values of all kinds side by side and compares kinds whenever a value is taken out. In a
map that came about by calls the comparison never fails, since each value is of the kind of its slot.
So it answers every call as a finite map does whose values have their types from the start.
-/

namespace PageListeners

section

variable {κ : Type} (Carrier : κ → Type)

abbrev SlotValues :=
  Finmap fun s : Slot κ => Carrier s.kind

/-- What can be asked of a map. The changes stand for what a caller does with the value that it is
given to change. -/
inductive SlotCall where
  | set (s : Slot κ) (v : Carrier s.kind)
  | get (s : Slot κ)
  | update (s : Slot κ) (f : Carrier s.kind → Carrier s.kind)
  | updateOr (s : Slot κ) (blank : Carrier s.kind) (f : Carrier s.kind → Carrier s.kind)
  | remove (s : Slot κ)
  | contains (s : Slot κ)

inductive SlotAnswer where
  | value (s : Slot κ) (v? : Option (Carrier s.kind))
  | truth (b : Bool)

end

variable {κ : Type} {Carrier : κ → Type}

def SlotCall.slot : SlotCall Carrier → Slot κ
  | set s _ | get s | update s _ | updateOr s _ _ | remove s | contains s => s

variable [DecidableEq κ]

def SlotMap.ask (m : SlotMap Carrier) : SlotCall Carrier → SlotAnswer Carrier × SlotMap Carrier
  | .set s v => (m.set s v).map (.value s) id
  | .get s => (.value s (m.get? s), m)
  | .update s f => (m.update s f).map (.value s) id
  | .updateOr s blank f => (m.updateOr s blank f).map (.value s) id
  | .remove s => (m.remove s).map (.value s) id
  | .contains s => (.truth (m.contains s), m)

def SlotValues.ask (c : SlotValues Carrier) :
    SlotCall Carrier → SlotAnswer Carrier × SlotValues Carrier
  | .set s v => (.value s (c.lookup s), c.insert s v)
  | .get s => (.value s (c.lookup s), c)
  | .update s f =>
    match c.lookup s with
    | some v => (.value s (some (f v)), c.insert s (f v))
    | none => (.value s none, c)
  | .updateOr s blank f =>
    let v := f ((c.lookup s).getD blank)
    (.value s (some v), c.insert s v)
  | .remove s => (.value s (c.lookup s), c.erase s)
  | .contains s => (.truth (decide (s ∈ c)), c)

namespace SlotMap

variable {m : SlotMap Carrier} {c : SlotValues Carrier} {s t : Slot κ}

theorem get?_put_of_ne (ht : t ≠ s) (m : SlotMap Carrier) (b : Boxed Carrier) :
    (m.put s b).get? t = m.get? t := by
  rw [get?, box?_put, if_neg ht, get?]

theorem get?_erase_of_ne (ht : t ≠ s) (m : SlotMap Carrier) : (m.erase s).get? t = m.get? t := by
  rw [get?, box?_erase, if_neg ht, get?]

theorem get?_update_of_ne (ht : t ≠ s) (m : SlotMap Carrier)
    (f : Carrier s.kind → Carrier s.kind) : (m.update s f).2.get? t = m.get? t := by
  rw [update]
  cases m.get? s with
  | none => rfl
  | some v => exact get?_put_of_ne ht m _

/-- A call on one slot does nothing to the others. -/
theorem get?_ask_of_ne (m : SlotMap Carrier) {call : SlotCall Carrier} (ht : t ≠ call.slot) :
    (m.ask call).2.get? t = m.get? t := by
  cases call with
  | set s v => exact get?_put_of_ne ht m _
  | get s => rfl
  | update s f => exact get?_update_of_ne ht m f
  | updateOr s blank f =>
      rw [ask, updateOr]
      cases m.box? s with
      | none => exact (get?_update_of_ne ht _ f).trans (get?_put_of_ne ht m _)
      | some b => exact get?_update_of_ne ht m f
  | remove s => exact get?_erase_of_ne ht m
  | contains s => rfl

/-- Each slot holds what it should, as a value of its own kind, and has one entry for it. -/
structure Represents (m : SlotMap Carrier) (c : SlotValues Carrier) : Prop where
  box?_eq : ∀ s, m.box? s = (c.lookup s).map (Boxed.mk s.kind)
  nodup : (m.entries.map (·.1)).Nodup

theorem represents_empty : Represents ({} : SlotMap Carrier) ∅ where
  box?_eq s := by
    rw [Finmap.lookup_empty]
    rfl
  nodup := List.nodup_nil

namespace Represents

theorem get?_eq (h : Represents m c) (s : Slot κ) : m.get? s = c.lookup s := by
  rw [get?, h.box?_eq]
  cases c.lookup s with
  | none => rfl
  | some v => exact Boxed.as?_mk s.kind v

theorem isSome_box? (h : Represents m c) (s : Slot κ) : (m.box? s).isSome = true ↔ s ∈ c := by
  rw [h.box?_eq, Option.isSome_map, Finmap.lookup_isSome]

theorem contains_eq (h : Represents m c) (s : Slot κ) : m.contains s = decide (s ∈ c) := by
  rw [Bool.eq_iff_iff, contains, h.isSome_box?, decide_eq_true_iff]

/-- No value is of another kind than its slot. -/
theorem kind_eq (h : Represents m c) {e : Slot κ × Boxed Carrier} (he : e ∈ m.entries) :
    e.2.kind = e.1.kind := by
  have hbox : m.box? e.1 = some e.2 := (lookup_eq_some_iff_mem_of_nodup h.nodup).2 he
  rw [h.box?_eq] at hbox
  obtain ⟨v, -, hv⟩ := Option.map_eq_some_iff.1 hbox
  rw [← hv]

theorem size_eq (h : Represents m c) : m.size = c.keys.card := by
  have hkeys : (m.entries.map (·.1)).toFinset = c.keys := by
    ext s
    rw [List.mem_toFinset, Finmap.mem_keys, ← h.isSome_box?, box?, List.lookup_isSome_iff]
    simp
  rw [size, ← hkeys, List.toFinset_card_of_nodup h.nodup, List.length_map]

theorem put (h : Represents m c) (s : Slot κ) (v : Carrier s.kind) :
    Represents (m.put s ⟨s.kind, v⟩) (c.insert s v) where
  box?_eq t := by
    rw [box?_put]
    split
    · next ht =>
      subst ht
      rw [Finmap.lookup_insert, Option.map_some]
    · next ht => rw [Finmap.lookup_insert_of_ne c ht, h.box?_eq]
  nodup := nodup_keys_cons_filter h.nodup s

theorem erase (h : Represents m c) (s : Slot κ) : Represents (m.erase s) (c.erase s) where
  box?_eq t := by
    rw [box?_erase]
    split
    · next ht =>
      subst ht
      rw [Finmap.lookup_erase, Option.map_none]
    · next ht => rw [Finmap.lookup_erase_ne ht, h.box?_eq]
  nodup := nodup_keys_filter h.nodup _

/-- A value that is there is changed. -/
theorem update_of_lookup (h : Represents m c) {v : Carrier s.kind} (hv : c.lookup s = some v)
    (f : Carrier s.kind → Carrier s.kind) :
    (m.update s f).1 = some (f v) ∧ Represents (m.update s f).2 (c.insert s (f v)) := by
  rw [update, h.get?_eq, hv]
  exact ⟨rfl, h.put s (f v)⟩

theorem updateOr (h : Represents m c) (s : Slot κ) (blank : Carrier s.kind)
    (f : Carrier s.kind → Carrier s.kind) :
    (m.updateOr s blank f).1 = some (f ((c.lookup s).getD blank)) ∧
      Represents (m.updateOr s blank f).2 (c.insert s (f ((c.lookup s).getD blank))) := by
  rw [SlotMap.updateOr, h.box?_eq]
  cases hv : c.lookup s with
  | none =>
      have hblank := (h.put s blank).update_of_lookup (Finmap.lookup_insert c) f
      rwa [Finmap.insert_insert] at hblank
  | some v => exact h.update_of_lookup hv f

/-- Every call is answered alike, and the map goes on representing. -/
theorem ask (h : Represents m c) (call : SlotCall Carrier) :
    (m.ask call).1 = (c.ask call).1 ∧ Represents (m.ask call).2 (c.ask call).2 := by
  cases call with
  | set s v => exact ⟨congrArg _ (h.get?_eq s), h.put s v⟩
  | get s => exact ⟨congrArg _ (h.get?_eq s), h⟩
  | update s f =>
      cases hv : c.lookup s with
      | none =>
          have hnone : m.get? s = none := (h.get?_eq s).trans hv
          simpa only [SlotMap.ask, SlotValues.ask, update, hnone, hv] using ⟨rfl, h⟩
      | some v =>
          obtain ⟨hanswer, hnext⟩ := h.update_of_lookup hv f
          simpa only [SlotMap.ask, SlotValues.ask, hv] using ⟨congrArg _ hanswer, hnext⟩
  | updateOr s blank f =>
      obtain ⟨hanswer, hnext⟩ := h.updateOr s blank f
      exact ⟨congrArg _ hanswer, hnext⟩
  | remove s => exact ⟨congrArg _ (h.get?_eq s), h.erase s⟩
  | contains s => exact ⟨congrArg _ (h.contains_eq s), h⟩

end Represents

/-- Whatever was asked of a new map, it answered as a finite map of typed values does, and holds and
counts the same. All that is stored is of the kind of its slot, so nothing that is stored is missed,
a value that is set for want of one is there to be changed, and no call reaches another slot. -/
theorem answers_as_finite_map (calls : List (SlotCall Carrier)) :
    let m := (inTurn ask ({} : SlotMap Carrier) calls).2
    let c := (inTurn SlotValues.ask (∅ : SlotValues Carrier) calls).2
    (inTurn ask {} calls).1 = (inTurn SlotValues.ask ∅ calls).1 ∧
    (∀ s, m.get? s = c.lookup s ∧ (m.remove s).1 = c.lookup s ∧
      ∀ v, (m.set s v).1 = c.lookup s) ∧
    m.size = c.keys.card ∧ (∀ e ∈ m.entries, e.2.kind = e.1.kind) ∧
    (∀ s, m.contains s = (m.get? s).isSome) ∧
    (∀ s blank f, (m.updateOr s blank f).1 = some (f ((m.get? s).getD blank))) ∧
    ∀ call t, t ≠ call.slot → (m.ask call).2.get? t = m.get? t := by
  obtain ⟨hanswers, h⟩ := inTurn_agrees (fun h => h.ask) represents_empty calls
  intro m c
  refine ⟨hanswers, ?_, h.size_eq, fun e he => h.kind_eq he, ?_, ?_, ?_⟩
  · intro s
    exact ⟨h.get?_eq s, h.get?_eq s, fun _ => h.get?_eq s⟩
  · intro s
    rw [h.contains_eq, h.get?_eq, Bool.eq_iff_iff, decide_eq_true_iff, Finmap.lookup_isSome]
  · intro s blank f
    rw [h.get?_eq]
    exact (h.updateOr s blank f).1
  · intro call t ht
    exact m.get?_ask_of_ne ht

def counterCalls : List (SlotCall Kind.Carrier) :=
  [.set ⟨"counter", .word⟩ 7, .set ⟨"counter", .text⟩ "seven",
    .updateOr ⟨"counter", .word⟩ 0 (· + 3)]

theorem counter_answers_as_finite_map :
    let m := (inTurn ask {} counterCalls).2
    let other : SlotCall Kind.Carrier := .remove ⟨"counter", .text⟩
    (∃ e ∈ m.entries, e.1 = ⟨"counter", .word⟩ ∧ e.2.kind = e.1.kind) ∧ m.size = 2 ∧
    ⟨"counter", .word⟩ ≠ other.slot ∧ (m.ask other).2.get? ⟨"counter", .word⟩ = some 10 := by
  intro m other
  obtain ⟨-, -, hsize, hkinds, -, -, hothers⟩ := answers_as_finite_map counterCalls
  have hmem : (⟨"counter", .word⟩, ⟨.word, 10⟩) ∈ m.entries := List.mem_cons_self
  have hne : ⟨"counter", .word⟩ ≠ other.slot := by decide
  exact ⟨⟨_, hmem, rfl, hkinds _ hmem⟩, hsize.trans rfl, hne, hothers _ _ hne⟩

end SlotMap

end PageListeners
