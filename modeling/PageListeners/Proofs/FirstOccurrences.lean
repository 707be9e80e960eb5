import Mathlib.Data.Finset.Insert
import Mathlib.Data.Finset.Dedup
import PageListeners.Head
import PageListeners.InTurn

/-!
# What a head keeps of the items it is given

A head keeps the first one of equal items, and its scripts of one kind are the first ones of that
kind, whatever came of the other. It asks its own list for that; a collector, which keeps the set of
the items that came beside the list, goes in step with it.
-/

namespace PageListeners

variable {α β : Type} [DecidableEq α] [DecidableEq β]

theorem eraseDups_concat (xs : List α) (x : α) :
    (xs ++ [x]).eraseDups = if x ∈ xs then xs.eraseDups else xs.eraseDups ++ [x] := by
  rw [List.eraseDups_append, List.removeAll]
  by_cases hx : x ∈ xs
  · simp [hx]
  · simp [hx, List.eraseDups_cons]

/-- First occurrences may be taken before or after a choice that keeps different elements apart. -/
theorem eraseDups_filterMap {f : α → Option β}
    (hf : ∀ x y z, f x = some z → f y = some z → x = y) (xs : List α) :
    (xs.filterMap f).eraseDups = xs.eraseDups.filterMap f := by
  induction xs using List.reverseRecOn with
  | nil => rfl
  | append_singleton xs x ih =>
      rw [List.filterMap_append, eraseDups_concat]
      cases hx : f x with
      | none =>
          have hskip : (xs.eraseDups ++ [x]).filterMap f = xs.eraseDups.filterMap f := by
            simp [hx]
          split
          · simp [hx, ih]
          · simp [hx, ih]
      | some z =>
          have hmem : z ∈ xs.filterMap f ↔ x ∈ xs := by
            rw [List.mem_filterMap]
            constructor
            · rintro ⟨y, hy, hz⟩
              exact hf y x z hz hx ▸ hy
            · intro hxs
              exact ⟨x, hxs, hx⟩
          have hone : [x].filterMap f = [z] := by
            simp [hx]
          rw [hone, eraseDups_concat, ih]
          simp only [hmem]
          split
          · rfl
          · rw [List.filterMap_append, hone]

theorem HeadItem.eq_of_ready? {item item' : HeadItem} {script : String}
    (h : item.ready? = some script) (h' : item'.ready? = some script) : item = item' := by
  cases item with
  | ready s =>
      cases item' with
      | ready s' =>
          cases h
          cases h'
          rfl
      | plain s' => cases h'
  | plain s => cases h

namespace Head

/-- A head that has kept the first occurrences of what came goes on doing so. -/
theorem items_add_eq_eraseDups {h : Head} {past : List HeadItem} (hp : h.items = past.eraseDups)
    (item : HeadItem) : (h.add item).items = (past ++ [item]).eraseDups := by
  have hmem : item ∈ h.items ↔ item ∈ past := by
    rw [hp, List.mem_eraseDups]
  rw [items_add, eraseDups_concat, ← hp]
  simp only [hmem]

theorem items_inTurn_offer {h : Head} {past : List HeadItem} (hp : h.items = past.eraseDups)
    (items : List HeadItem) : (inTurn offer h items).2.items = (past ++ items).eraseDups := by
  induction items generalizing h past with
  | nil => rw [List.append_nil, ← hp, inTurn]
  | cons item items ih =>
      rw [inTurn, offer, ih (items_add_eq_eraseDups hp item), ← List.append_cons]

/-- An item is taken if no equal one came before it. -/
theorem answers_inTurn_offer {h : Head} {past : List HeadItem} (hp : h.items = past.eraseDups)
    (items : List HeadItem) : (inTurn offer h items).1 =
      items.mapIdx fun n item => decide (item ∉ past ++ items.take n) := by
  induction items generalizing h past with
  | nil => rfl
  | cons item items ih =>
      have hfirst : (h.offer item).1 = decide (item ∉ past) := by
        rw [offer, hp]
        simp only [List.mem_eraseDups]
      have hpast : ∀ n, past ++ [item] ++ items.take n = past ++ (item :: items).take (n + 1) :=
        fun n => List.append_assoc ..
      rw [inTurn, hfirst, offer, ih (items_add_eq_eraseDups hp item), List.mapIdx_cons,
        List.take_zero, List.append_nil]
      simp only [hpast]

end Head

/-- A head under collection with the set of the items that came, which is asked before an item is
taken. -/
structure Collector where
  items : List HeadItem := []
  seen : Finset HeadItem := ∅

namespace Collector

def offer (c : Collector) (item : HeadItem) : Bool × Collector :=
  if item ∈ c.seen then (false, c) else (true, ⟨c.items ++ [item], insert item c.seen⟩)

structure InStep (h : Head) (c : Collector) : Prop where
  items_eq : c.items = h.items
  mem_seen : ∀ item, item ∈ c.seen ↔ item ∈ h.items

variable {h : Head} {c : Collector}

theorem inStep_empty : InStep {} {} where
  items_eq := rfl
  mem_seen item := by simp

/-- One item more leaves the list and the set in step, and both say the same of it. -/
theorem InStep.offer (hs : InStep h c) (item : HeadItem) :
    (h.offer item).1 = (c.offer item).1 ∧ InStep (h.offer item).2 (c.offer item).2 := by
  rw [Head.offer, Head.add, Collector.offer]
  by_cases hitem : item ∈ h.items
  · rw [if_pos hitem, if_pos ((hs.mem_seen item).2 hitem)]
    exact ⟨by simpa using hitem, hs⟩
  · rw [if_neg hitem, if_neg fun hseen => hitem ((hs.mem_seen item).1 hseen)]
    refine ⟨by simpa using hitem, ?_, ?_⟩
    · exact congrArg (· ++ [item]) hs.items_eq
    · intro x
      simp [hs.mem_seen, or_comm]

end Collector

/-- Of the items that a new head is given it keeps the first occurrences, in their order, and an item
is taken exactly if no equal one came before. The scripts that wait for the document are the first
occurrences among those alone. A list with a set beside it answers the same and ends with the same
items in both. -/
theorem Head.keeps_first_occurrences (items : List HeadItem) :
    (inTurn Head.offer {} items).2.items = items.eraseDups ∧
    (inTurn Head.offer {} items).1 =
      (items.mapIdx fun n item => decide (item ∉ items.take n)) ∧
    (inTurn Head.offer {} items).2.readyScripts =
      (items.filterMap HeadItem.ready?).eraseDups ∧
    (inTurn Head.offer {} items).1 = (inTurn Collector.offer {} items).1 ∧
    Collector.InStep (inTurn Head.offer {} items).2 (inTurn Collector.offer {} items).2 := by
  have hstart : ({} : Head).items = [].eraseDups := rfl
  have hitems := items_inTurn_offer hstart items
  rw [List.nil_append] at hitems
  refine ⟨hitems, ?_, ?_, inTurn_agrees (fun hs => hs.offer) Collector.inStep_empty items⟩
  · simpa only [List.nil_append] using answers_inTurn_offer hstart items
  · rw [readyScripts, hitems, eraseDups_filterMap fun _ _ _ => HeadItem.eq_of_ready?]

end PageListeners
