import PageListeners.Delegation
import PageListeners.Proofs.Component
import PageListeners.Proofs.EventName
import PageListeners.Proofs.Page.Census

/-!
# The delegator for an event

On a tree the search for a delegator finds the first one on the nearest component that has one, if
the registry lets it search. The registry never stops it in vain while it counts the delegators that
are there.
-/

namespace PageListeners

namespace Page

variable {p q : Page} {a g h : Handle} {c d : Component} {event : String} {t : Site}

def DelegatorAt (p : Page) (site : Site) (d : Delegator) : Prop :=
  ∃ c, p.component? site.component = some c ∧ c.behaviors[site.index]? = some (.delegator d)

def IsAbove (p : Page) (a h : Handle) : Prop :=
  a ≠ root ∧ a ≠ h ∧ p.InSubtree h a

/-- The first delegator with `s` on the nearest component above `h` that has one. -/
structure IsNearest (p : Page) (s : Delegator → Prop) (h : Handle) (t : Site) : Prop where
  above : p.IsAbove t.component h
  selected : ∃ d, p.DelegatorAt t d ∧ s d
  first : ∀ i d, i < t.index → p.DelegatorAt ⟨t.component, i⟩ d → ¬ s d
  nearest : ∀ a i d, p.IsAbove a h → p.InSubtree a t.component → a ≠ t.component →
    p.DelegatorAt ⟨a, i⟩ d → ¬ s d

theorem delegatorAt_iff (hc : p.component? h = some c) {index : Nat} {d : Delegator} :
    p.DelegatorAt ⟨h, index⟩ d ↔ c.behaviors[index]? = some (.delegator d) := by
  constructor
  · rintro ⟨c', hc', hd⟩
    rw [hc] at hc'
    cases hc'
    exact hd
  · intro hd
    exact ⟨c, hc, hd⟩

theorem DelegatorAt.unique {d e : Delegator} (hd : p.DelegatorAt t d) (he : p.DelegatorAt t e) :
    d = e := by
  obtain ⟨c, hc, hd⟩ := hd
  rw [delegatorAt_iff hc, hd] at he
  cases he
  rfl

theorem delegatorFor?_eq_some_iff_first (hc : p.component? h = some c) {index : Nat} :
    c.delegatorFor? event = some index ↔
      (∃ d, p.DelegatorAt ⟨h, index⟩ d ∧ d.handles event = true) ∧
        ∀ i d, i < index → p.DelegatorAt ⟨h, i⟩ d → ¬ d.handles event = true := by
  simp only [Component.delegatorFor?_eq_some_iff, delegatorAt_iff hc, Bool.not_eq_true]

theorem IsNearest.congr {s s' : Delegator → Prop} (hn : p.IsNearest s h t)
    (hs : ∀ t d, p.DelegatorAt t d → (s d ↔ s' d)) : p.IsNearest s' h t where
  above := hn.above
  selected := by
    obtain ⟨d, hd, hsd⟩ := hn.selected
    exact ⟨d, hd, (hs t d hd).1 hsd⟩
  first i d hlt hd hsd := hn.first i d hlt hd ((hs _ d hd).2 hsd)
  nearest a i d ha hat hne hd hsd := hn.nearest a i d ha hat hne hd ((hs _ d hd).2 hsd)

theorem not_isAbove_of_dead (hc : p.component? h = none) : ¬ p.IsAbove a h := by
  rintro ⟨-, hne, ha⟩
  rcases Relation.ReflTransGen.cases_head ha with rfl | ⟨k, hk, -⟩
  · exact hne rfl
  · obtain ⟨c, hc', -⟩ := parent?_eq_some.1 hk
    rw [hc] at hc'
    cases hc'

theorem ancestors_of_dead (hc : p.component? h = none) : p.ancestors h = [] := by
  rw [ancestors, lineage?_of_dead hc]
  rfl

namespace IsTree

theorem ancestors_root (ht : p.IsTree) : p.ancestors root = [] := by
  obtain ⟨c, hc, hn⟩ := ht.root_live
  rw [ancestors, lineage?_of_parent_none hc hn]
  rfl

theorem ancestors_of_parent (ht : p.IsTree) (hc : p.component? h = some c) (hg : c.parent = some g)
    (hd : p.component? g = some d) :
    p.ancestors h = if g = root then [] else (g, d) :: p.ancestors g := by
  rw [ancestors, ancestors, lineage?_of_parent_some hc hg (ht.parent_lt hc hg)]
  by_cases hroot : g = root
  · obtain ⟨r, hr, hn⟩ := ht.root_live
    rw [if_pos hroot, hroot, lineage?_of_parent_none hr hn]
    rfl
  · obtain ⟨e, f, he, -, hf, -⟩ := ht.exists_parent hd hroot
    obtain ⟨line, hline⟩ := ht.exists_lineage hf
    rw [if_neg hroot, lineage?_of_parent_some hd he (ht.parent_lt hd he), hline]
    rfl

theorem not_isAbove_root (ht : p.IsTree) : ¬ p.IsAbove a root := by
  rintro ⟨hne, -, ha⟩
  exact hne (Nat.le_zero.1 (ht.le_of_inSubtree ha))

theorem isAbove_iff_of_parent (ht : p.IsTree) (hc : p.component? h = some c)
    (hg : c.parent = some g) : p.IsAbove a h ↔ a = g ∧ g ≠ root ∨ p.IsAbove a g := by
  have hparent : p.parent? h = some g := parent?_eq_some.2 ⟨c, hc, hg⟩
  constructor
  · rintro ⟨hroot, hne, ha⟩
    rcases Relation.ReflTransGen.cases_head ha with rfl | ⟨k, hk, ha⟩
    · exact absurd rfl hne
    · rw [hparent] at hk
      cases hk
      by_cases hag : a = g
      · exact Or.inl ⟨hag, hag ▸ hroot⟩
      · exact Or.inr ⟨hroot, hag, ha⟩
  · have hlt := ht.parent_lt hc hg
    rintro (⟨rfl, hroot⟩ | ⟨hroot, hne, ha⟩)
    · exact ⟨hroot, Nat.ne_of_lt hlt, Relation.ReflTransGen.single hparent⟩
    · exact ⟨hroot, Nat.ne_of_lt (Nat.lt_of_le_of_lt (ht.le_of_inSubtree ha) hlt),
        Relation.ReflTransGen.head hparent ha⟩

theorem mem_ancestors_iff (ht : p.IsTree) :
    (a, d) ∈ p.ancestors h ↔ p.IsAbove a h ∧ p.component? a = some d := by
  cases hc : p.component? h with
  | none =>
      rw [ancestors_of_dead hc]
      constructor
      · intro hmem
        cases hmem
      · rintro ⟨ha, -⟩
        exact absurd ha (not_isAbove_of_dead hc)
  | some c =>
      refine ht.induction (P := fun h _ =>
        (a, d) ∈ p.ancestors h ↔ p.IsAbove a h ∧ p.component? a = some d) ?_ ?_ h c hc
      · intro _ _ _
        rw [ht.ancestors_root]
        constructor
        · intro hmem
          cases hmem
        · rintro ⟨ha, -⟩
          exact absurd ha ht.not_isAbove_root
      · intro h c g e hc hg he _ ih
        rw [ht.ancestors_of_parent hc hg he, ht.isAbove_iff_of_parent hc hg]
        by_cases hroot : g = root
        · rw [if_pos hroot]
          constructor
          · intro hmem
            cases hmem
          · rintro ⟨⟨-, hne⟩ | ha, -⟩
            · exact absurd hroot hne
            · exact absurd (hroot ▸ ha) ht.not_isAbove_root
        · rw [if_neg hroot, List.mem_cons, Prod.mk.injEq, ih]
          constructor
          · rintro (⟨rfl, rfl⟩ | ⟨ha, hd⟩)
            · exact ⟨Or.inl ⟨rfl, hroot⟩, he⟩
            · exact ⟨Or.inr ha, hd⟩
          · rintro ⟨⟨rfl, -⟩ | ha, hd⟩
            · rw [he] at hd
              cases hd
              exact Or.inl ⟨rfl, rfl⟩
            · exact Or.inr ⟨ha, hd⟩

variable {s : Delegator → Prop}

theorem not_isNearest_of_parent_root (ht : p.IsTree) (hc : p.component? h = some c)
    (hg : c.parent = some root) : ¬ p.IsNearest s h t := by
  intro hn
  rcases (ht.isAbove_iff_of_parent hc hg).1 hn.above with ⟨-, hroot⟩ | habove
  · exact hroot rfl
  · exact ht.not_isAbove_root habove

/-- A delegator on the parent is nearer than any other. -/
theorem isNearest_iff_of_first (ht : p.IsTree) (hc : p.component? h = some c)
    (hg : c.parent = some g) (hroot : g ≠ root) {index : Nat}
    (hselected : ∃ d, p.DelegatorAt ⟨g, index⟩ d ∧ s d)
    (hfirst : ∀ i d, i < index → p.DelegatorAt ⟨g, i⟩ d → ¬ s d) :
    p.IsNearest s h t ↔ t = ⟨g, index⟩ := by
  have habove : ∀ {a}, p.IsAbove a h ↔ a = g ∧ g ≠ root ∨ p.IsAbove a g :=
    ht.isAbove_iff_of_parent hc hg
  constructor
  · intro hn
    obtain ⟨k, i⟩ := t
    have hk : k = g := by
      rcases habove.1 hn.above with ⟨hk, -⟩ | ⟨-, hne, hs⟩
      · exact hk
      · obtain ⟨d, hd, hsd⟩ := hselected
        exact absurd hsd (hn.nearest g index d (habove.2 (Or.inl ⟨rfl, hroot⟩)) hs (Ne.symm hne) hd)
    subst hk
    rcases Nat.lt_trichotomy i index with hlt | rfl | hlt
    · obtain ⟨d, hd, hsd⟩ := hn.selected
      exact absurd hsd (hfirst i d hlt hd)
    · rfl
    · obtain ⟨d, hd, hsd⟩ := hselected
      exact absurd hsd (hn.first index d hlt hd)
  · rintro rfl
    refine ⟨habove.2 (Or.inl ⟨rfl, hroot⟩), hselected, hfirst, ?_⟩
    intro a i d ha hs hne _ _
    rcases habove.1 ha with ⟨hag, -⟩ | ⟨-, -, hga⟩
    · exact hne hag
    · exact hne (Nat.le_antisymm (ht.le_of_inSubtree hga) (ht.le_of_inSubtree hs))

/-- A parent without a delegator is passed over. -/
theorem isNearest_iff_of_none (ht : p.IsTree) (hc : p.component? h = some c)
    (hg : c.parent = some g) (hnone : ∀ i d, p.DelegatorAt ⟨g, i⟩ d → ¬ s d) :
    p.IsNearest s h t ↔ p.IsNearest s g t := by
  have habove : ∀ {a}, p.IsAbove a h ↔ a = g ∧ g ≠ root ∨ p.IsAbove a g :=
    ht.isAbove_iff_of_parent hc hg
  constructor
  · intro hn
    refine ⟨?_, hn.selected, hn.first, fun a i d ha => hn.nearest a i d (habove.2 (Or.inr ha))⟩
    rcases habove.1 hn.above with ⟨htg, -⟩ | ht
    · obtain ⟨d, hd, hsd⟩ := hn.selected
      exact absurd hsd (hnone t.index d (htg ▸ hd))
    · exact ht
  · intro hn
    refine ⟨habove.2 (Or.inr hn.above), hn.selected, hn.first, ?_⟩
    intro a i d ha hs hne hd
    rcases habove.1 ha with ⟨hag, -⟩ | ha
    · exact hnone i d (hag ▸ hd)
    · exact hn.nearest a i d ha hs hne hd

/-- The walk up stops at the nearest component that has a delegator for the event. -/
theorem findSome?_ancestors_iff (ht : p.IsTree) (hc : p.component? h = some c) :
    ((p.ancestors h).findSome? fun a => (a.2.delegatorFor? event).map (Site.mk a.1)) = some t ↔
      p.IsNearest (·.handles event = true) h t := by
  refine ht.induction (P := fun h _ => ((p.ancestors h).findSome? fun a =>
    (a.2.delegatorFor? event).map (Site.mk a.1)) = some t ↔
      p.IsNearest (·.handles event = true) h t) ?_ ?_ h c hc
  · intro _ _ _
    rw [ht.ancestors_root]
    constructor
    · intro hnone
      cases hnone
    · intro hn
      exact absurd hn.above ht.not_isAbove_root
  · intro h c g d hc hg hd _ ih
    rw [ht.ancestors_of_parent hc hg hd]
    by_cases hroot : g = root
    · rw [if_pos hroot]
      constructor
      · intro hnone
        cases hnone
      · intro hn
        exact absurd hn (ht.not_isNearest_of_parent_root hc (hroot ▸ hg))
    · rw [if_neg hroot, List.findSome?_cons]
      cases hi : d.delegatorFor? event with
      | some i =>
          obtain ⟨hselected, hfirst⟩ := (delegatorFor?_eq_some_iff_first hd).1 hi
          rw [ht.isNearest_iff_of_first hc hg hroot hselected hfirst, Option.map_some,
            Option.some.injEq, eq_comm]
      | none =>
          have hnone : ∀ i e, p.DelegatorAt ⟨g, i⟩ e → ¬ e.handles event = true := by
            intro i e he
            rw [Component.delegatorFor?_eq_none_iff.1 hi i e ((delegatorAt_iff hd).1 he)]
            exact Bool.false_ne_true
          rw [ht.isNearest_iff_of_none hc hg hnone, ← ih, Option.map_none]

theorem delegatorFor?_eq_some_iff (ht : p.IsTree) : p.delegatorFor? h event = some t ↔
    p.delegations.isRegistered event = true ∧ p.IsNearest (·.handles event = true) h t := by
  rw [delegatorFor?]
  cases hc : p.component? h with
  | none =>
      rw [ancestors_of_dead hc]
      constructor
      · intro hnone
        split at hnone <;> cases hnone
      · rintro ⟨-, hn⟩
        exact absurd hn.above (not_isAbove_of_dead hc)
  | some c =>
      rw [← ht.findSome?_ancestors_iff hc]
      cases p.delegations.isRegistered event <;> simp

theorem exists_isNearest_iff (ht : p.IsTree) :
    (∃ t, p.IsNearest (·.handles event = true) h t) ↔
      ∃ a i d, p.IsAbove a h ∧ p.DelegatorAt ⟨a, i⟩ d ∧ d.handles event = true := by
  constructor
  · rintro ⟨t, hn⟩
    obtain ⟨d, hd, hhandles⟩ := hn.selected
    exact ⟨t.component, t.index, d, hn.above, hd, hhandles⟩
  · rintro ⟨a, i, d, ha, ⟨c, hc, hb⟩, hhandles⟩
    obtain ⟨e, he⟩ : ∃ e, p.component? h = some e := by
      cases he : p.component? h with
      | none => exact absurd ha (not_isAbove_of_dead he)
      | some e => exact ⟨e, rfl⟩
    have hfound : ((p.ancestors h).findSome? fun a =>
        (a.2.delegatorFor? event).map (Site.mk a.1)).isSome = true := by
      rw [List.findSome?_isSome_iff]
      refine ⟨(a, c), ht.mem_ancestors_iff.2 ⟨ha, hc⟩, ?_⟩
      rw [Option.isSome_map, Option.isSome_iff_ne_none]
      intro hnone
      rw [Component.delegatorFor?_eq_none_iff.1 hnone i d hb] at hhandles
      cases hhandles
    obtain ⟨t, hsearch⟩ := Option.isSome_iff_exists.1 hfound
    exact ⟨t, (ht.findSome?_ancestors_iff he).1 hsearch⟩

end IsTree

theorem census_pos_iff : 0 < p.census event ↔ ∃ t, p.DelegatorAt t ⟨event⟩ := by
  rw [census, List.sum_pos_iff_exists_pos_nat]
  constructor
  · rintro ⟨n, hn, hpos⟩
    obtain ⟨⟨h, c⟩, hc, rfl⟩ := List.mem_map.1 hn
    obtain ⟨b, hb, hdelegates⟩ := List.countP_pos_iff.1 hpos
    obtain ⟨i, hi⟩ := List.mem_iff_getElem?.1 hb
    cases b with
    | listener l => cases hdelegates
    | delegator d =>
        obtain rfl : d = ⟨event⟩ := congrArg Delegator.mk (beq_iff_eq.1 hdelegates)
        exact ⟨⟨h, i⟩, c, mem_components.1 hc, hi⟩
  · rintro ⟨t, c, hc, hd⟩
    refine ⟨c.tally event, List.mem_map.2 ⟨(t.component, c), mem_components.2 hc, rfl⟩, ?_⟩
    rw [Component.tally, List.countP_pos_iff]
    exact ⟨.delegator ⟨event⟩, List.mem_of_getElem? hd, beq_self_eq_true event⟩

namespace ReachableBy

variable {e : String} {d : Delegator}

/-- Delegators and listeners get names of one form, so a delegator handles just its own event. -/
theorem handles_iff {allowed : Operation → Prop} (hp : ReachableBy allowed p)
    (he : eventName e = .ok event) (hd : p.DelegatorAt t d) :
    d.handles event = true ↔ d.event = event := by
  obtain ⟨c, hc, hb⟩ := hd
  obtain ⟨f, hf⟩ := hp.isNamed hc _ (List.mem_of_getElem? hb)
  exact Delegator.handles_iff hf he

theorem isRegistered_iff (hp : ReachableBy Operation.KeepsCount p) :
    p.delegations.isRegistered event = true ↔ ∃ t, p.DelegatorAt t ⟨event⟩ := by
  have hcounted : p.Counted := hp.counted fun _ hf => hf
  rw [Registry.isRegistered, hcounted, decide_eq_true_iff, census_pos_iff]

theorem delegatorFor?_eq_some_iff (hp : ReachableBy Operation.KeepsCount p)
    (he : eventName e = .ok event) :
    p.delegatorFor? h event = some t ↔ p.IsNearest (·.event = event) h t := by
  rw [hp.isTree.delegatorFor?_eq_some_iff]
  constructor
  · rintro ⟨-, hn⟩
    exact hn.congr fun t d hd => hp.handles_iff he hd
  · intro hn
    obtain ⟨d, hd, rfl⟩ := hn.selected
    exact ⟨hp.isRegistered_iff.2 ⟨t, hd⟩, hn.congr fun t d hd => (hp.handles_iff he hd).symm⟩

end ReachableBy

/-- The registry does not change what is found: a listener of a normalized name goes to the first
delegator of exactly this name on the nearest component above it that has one. -/
theorem ReachableBy.delegatorFor?_eq_nearest (hp : ReachableBy Operation.KeepsCount p) {e : String}
    (he : eventName e = .ok event) (h : Handle) :
    (∀ t, p.delegatorFor? h event = some t ↔ p.IsNearest (·.event = event) h t) ∧
      (p.delegatorFor? h event = none ↔ ∀ a i, p.IsAbove a h → ¬ p.DelegatorAt ⟨a, i⟩ ⟨event⟩) := by
  refine ⟨fun t => hp.delegatorFor?_eq_some_iff he, ?_⟩
  constructor
  · intro hnone a i ha hd
    have hhandles := (hp.handles_iff he hd).2 rfl
    obtain ⟨t, hn⟩ := hp.isTree.exists_isNearest_iff.2 ⟨a, i, ⟨event⟩, ha, hd, hhandles⟩
    have hexact := hn.congr fun t d hd => hp.handles_iff he hd
    rw [(hp.delegatorFor?_eq_some_iff he).2 hexact] at hnone
    cases hnone
  · intro hnone
    rw [Option.eq_none_iff_forall_ne_some]
    intro t hsearch
    have hn := (hp.delegatorFor?_eq_some_iff he).1 hsearch
    obtain ⟨d, hd, rfl⟩ := hn.selected
    exact hnone _ _ hn.above hd

theorem sample_delegatorFor?_eq_nearest :
    sample.IsNearest (·.event = "click") 2 ⟨1, 0⟩ := by
  have hfound : sample.delegatorFor? 2 "click" = some ⟨1, 0⟩ := by decide +kernel
  have hname : eventName "onClick" = .ok "click" := by decide +kernel
  exact ((sample_keepsCount.delegatorFor?_eq_nearest hname 2).1 ⟨1, 0⟩).1 hfound

namespace ReachableBy

theorem isSmall_of_delegatorAt {allowed : Operation → Prop} (hp : ReachableBy allowed p)
    {d : Delegator} (hd : p.DelegatorAt t d) : Text.IsSmall d.event := by
  obtain ⟨c, hc, hb⟩ := hd
  obtain ⟨e, he⟩ := hp.isNamed hc _ (List.mem_of_getElem? hb)
  exact isSmall_of_eventName he

/-- The registry knows the spelling of the delegators only. -/
theorem delegatorFor?_eq_some_iff_isSmall (hp : ReachableBy Operation.KeepsCount p) :
    p.delegatorFor? h event = some t ↔
      Text.IsSmall event ∧ p.IsNearest (·.handles event = true) h t := by
  rw [hp.isTree.delegatorFor?_eq_some_iff]
  apply and_congr_left
  intro hn
  rw [hp.isRegistered_iff]
  constructor
  · rintro ⟨s, hd⟩
    exact hp.isSmall_of_delegatorAt hd
  · intro hsmall
    obtain ⟨d, hd, hhandles⟩ := hn.selected
    have hevent := Text.eq_of_isSmall (hp.isSmall_of_delegatorAt hd) hsmall hhandles
    exact ⟨t, hevent ▸ hd⟩

/-- A search for an event succeeds only under the spelling without capitals, though delegators
compare names without regard to the case of ASCII. So two spellings give one answer exactly if both
or neither of them is free of capitals, or if there is nothing to be found. -/
theorem delegatorFor?_of_spelling (hp : ReachableBy Operation.KeepsCount p)
    (hsame : Text.sameButAsciiCase e f = true) (h : Handle) :
    (∀ t, p.delegatorFor? h e = some t ↔
      Text.IsSmall e ∧ p.IsNearest (·.handles e = true) h t) ∧
    (p.delegatorFor? h e = p.delegatorFor? h f ↔ (Text.IsSmall e ↔ Text.IsSmall f) ∨
      ∀ a i d, p.IsAbove a h → p.DelegatorAt ⟨a, i⟩ d → d.handles e = false) := by
  have he : ∀ t, p.delegatorFor? h e = some t ↔
      Text.IsSmall e ∧ p.IsNearest (·.handles e = true) h t :=
    fun t => hp.delegatorFor?_eq_some_iff_isSmall
  have hf : ∀ t, p.delegatorFor? h f = some t ↔
      Text.IsSmall f ∧ p.IsNearest (·.handles e = true) h t := by
    intro t
    simp only [Delegator.handles_congr hsame]
    exact hp.delegatorFor?_eq_some_iff_isSmall
  refine ⟨he, ?_⟩
  have hnone : (∀ a i d, p.IsAbove a h → p.DelegatorAt ⟨a, i⟩ d → d.handles e = false) ↔
      ¬ ∃ t, p.IsNearest (·.handles e = true) h t := by
    rw [hp.isTree.exists_isNearest_iff]
    simp only [not_exists, not_and, Bool.not_eq_true]
  rw [hnone]
  constructor
  · intro hlookup
    by_cases hn : ∃ t, p.IsNearest (·.handles e = true) h t
    · obtain ⟨t, hn⟩ := hn
      have hspelled := (he t).symm.trans (hlookup ▸ hf t)
      rw [and_iff_left hn, and_iff_left hn] at hspelled
      exact Or.inl hspelled
    · exact Or.inr hn
  · rintro (hspelled | hn)
    · ext t
      rw [he, hf, hspelled]
    · ext t
      rw [he, hf]
      exact iff_of_false (fun ht => hn ⟨t, ht.2⟩) fun ht => hn ⟨t, ht.2⟩

end ReachableBy

/-- A search for a capital spelling finds nothing, although the form above handles it. -/
theorem sample_misses_capital : ReachableBy Operation.KeepsCount sample ∧
    Text.sameButAsciiCase "click" "Click" = true ∧
    sample.delegatorFor? 2 "click" ≠ sample.delegatorFor? 2 "Click" ∧
    ∃ d, sample.DelegatorAt ⟨1, 0⟩ d ∧ d.handles "Click" = true := by
  have hfound : sample.delegatorFor? 2 "click" = some ⟨1, 0⟩ := by decide +kernel
  have hmissed : sample.delegatorFor? 2 "Click" = none := by decide +kernel
  refine ⟨sample_keepsCount, by decide, ?_, ⟨"click"⟩, ⟨_, rfl, rfl⟩, by decide⟩
  rw [hfound, hmissed]
  nofun

theorem sample_delegatorFor?_of_spelling :
    Text.sameButAsciiCase "click" "Click" = true ∧
      sample.IsNearest (·.handles "click" = true) 2 ⟨1, 0⟩ := by
  have hsame : Text.sameButAsciiCase "click" "Click" = true := by decide
  have hfound : sample.delegatorFor? 2 "click" = some ⟨1, 0⟩ := by decide +kernel
  exact ⟨hsame, (((sample_keepsCount.delegatorFor?_of_spelling hsame 2).1 ⟨1, 0⟩).1 hfound).2⟩

end Page

end PageListeners
