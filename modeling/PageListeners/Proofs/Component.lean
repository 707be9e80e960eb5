import PageListeners.Component

/-!
# Behaviors and their indices

The listeners and the delegators of a component stand in the order of their indices, and the
delegator for an event is the first one that handles it.
-/

namespace PageListeners

section

variable {α : Type} {f : Behavior → Option α}

theorem mem_filterMap_zipIdx {bs : List Behavior} {index : Nat} {x : α} :
    (index, x) ∈ bs.zipIdx.filterMap (fun b => (f b.1).map (b.2, ·)) ↔
      ∃ b, bs[index]? = some b ∧ f b = some x := by
  simp only [List.mem_filterMap, Option.map_eq_some_iff, Prod.mk.injEq, Prod.exists,
    List.mem_zipIdx_iff_getElem?]
  constructor
  · rintro ⟨b, i, hb, y, hy, rfl, rfl⟩
    exact ⟨b, hb, hy⟩
  · rintro ⟨b, hb, hx⟩
    exact ⟨b, index, hb, x, hx, rfl, rfl⟩

theorem pairwise_filterMap_zipIdx (bs : List Behavior) (start : Nat) :
    ((bs.zipIdx start).filterMap fun b => (f b.1).map (b.2, ·)).Pairwise (·.1 < ·.1) := by
  induction bs generalizing start with
  | nil => exact List.Pairwise.nil
  | cons b bs ih =>
      rw [List.zipIdx_cons, List.filterMap_cons]
      cases f b with
      | none => exact ih (start + 1)
      | some x =>
          refine List.pairwise_cons.2 ⟨?_, ih (start + 1)⟩
          intro y hy
          obtain ⟨⟨b', i⟩, hb', hy'⟩ := List.mem_filterMap.1 hy
          obtain ⟨z, -, rfl⟩ := Option.map_eq_some_iff.1 hy'
          exact List.le_snd_of_mem_zipIdx hb'

end

namespace Component

variable {c : Component} {index : Nat} {event : String}

theorem mem_listeners {l : Listener} :
    (index, l) ∈ c.listeners ↔ c.behaviors[index]? = some (.listener l) := by
  rw [listeners, mem_filterMap_zipIdx]
  constructor
  · rintro ⟨b, hb, hl⟩
    cases b with
    | listener k =>
        cases hl
        exact hb
    | delegator d => cases hl
  · intro hl
    exact ⟨.listener l, hl, rfl⟩

theorem mem_delegators {d : Delegator} :
    (index, d) ∈ c.delegators ↔ c.behaviors[index]? = some (.delegator d) := by
  rw [delegators, mem_filterMap_zipIdx]
  constructor
  · rintro ⟨b, hb, hd⟩
    cases b with
    | listener l => cases hd
    | delegator e =>
        cases hd
        exact hb
  · intro hd
    exact ⟨.delegator d, hd, rfl⟩

theorem pairwise_listeners (c : Component) : c.listeners.Pairwise (·.1 < ·.1) :=
  pairwise_filterMap_zipIdx ..

theorem pairwise_delegators (c : Component) : c.delegators.Pairwise (·.1 < ·.1) :=
  pairwise_filterMap_zipIdx ..

theorem delegatorFor?_eq_none_iff : c.delegatorFor? event = none ↔
    ∀ (i : Nat) (d : Delegator), c.behaviors[i]? = some (.delegator d) →
      d.handles event = false := by
  simp only [delegatorFor?, Option.map_eq_none_iff, List.find?_eq_none, Prod.forall, mem_delegators,
    Bool.not_eq_true]

theorem delegatorFor?_eq_some_iff : c.delegatorFor? event = some index ↔
    (∃ d : Delegator, c.behaviors[index]? = some (.delegator d) ∧ d.handles event = true) ∧
      ∀ (i : Nat) (d : Delegator), i < index → c.behaviors[i]? = some (.delegator d) →
        d.handles event = false := by
  have hfound : ∀ {i}, c.delegatorFor? event = some i →
      (∃ d : Delegator, c.behaviors[i]? = some (.delegator d) ∧ d.handles event = true) ∧
        ∀ (j : Nat) (d : Delegator), j < i → c.behaviors[j]? = some (.delegator d) →
          d.handles event = false := by
    intro i hi
    obtain ⟨⟨i, d⟩, hfind, rfl⟩ := Option.map_eq_some_iff.1 hi
    obtain ⟨hhandles, front, back, hsplit, hfront⟩ := List.find?_eq_some_iff_append.1 hfind
    have hsorted := c.pairwise_delegators
    rw [hsplit, List.pairwise_append, List.pairwise_cons] at hsorted
    have hmem : (i, d) ∈ c.delegators := List.mem_of_find?_eq_some hfind
    refine ⟨⟨d, mem_delegators.1 hmem, hhandles⟩, ?_⟩
    intro j e hlt he
    -- a smaller index stands in front of the one that was found
    have hj : (j, e) ∈ front ++ (i, d) :: back := hsplit ▸ mem_delegators.2 he
    rcases List.mem_append.1 hj with hj | hj
    · simpa using hfront _ hj
    · rcases List.mem_cons.1 hj with hj | hj
      · cases hj
        exact absurd hlt (Nat.lt_irrefl i)
      · exact absurd (hsorted.2.1.1 _ hj) (Nat.lt_asymm hlt)
  constructor
  · exact hfound
  · rintro ⟨⟨d, hd, hhandles⟩, hfirst⟩
    cases hi : c.delegatorFor? event with
    | none =>
        rw [delegatorFor?_eq_none_iff.1 hi index d hd] at hhandles
        cases hhandles
    | some i =>
        obtain ⟨⟨e, he, hehandles⟩, hearlier⟩ := hfound hi
        rcases Nat.lt_trichotomy i index with hlt | rfl | hlt
        · rw [hfirst i e hlt he] at hehandles
          cases hehandles
        · rfl
        · rw [hearlier index d hlt hd] at hhandles
          cases hhandles

end Component

end PageListeners
