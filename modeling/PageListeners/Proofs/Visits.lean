import PageListeners.Proofs.Page.Edits
import PageListeners.Proofs.Page.Lineage
import PageListeners.RenderedHead

/-!
# The way of the pass

The pass enters exactly the components that are visible up to the page, in depth-first order, and
leaves each of them once. When it leaves a component, it is done with everything below.
-/

namespace PageListeners

def Visit.component : Visit → Handle
  | enter h => h
  | leave h => h

namespace Page

variable {p : Page} {g h k l w : Handle} {c : Component} {v : Visit} {depth : Nat}

/-- In depth-first order `g` comes before `h`: it is above `h`, or somewhere the ways down to the
two part, and the way to `g` takes the older child. -/
def ComesBefore (p : Page) (g h : Handle) : Prop :=
  (p.InSubtree h g ∧ h ≠ g) ∨
    ∃ a k l, p.parent? k = some a ∧ p.parent? l = some a ∧ k < l ∧ p.InSubtree g k ∧ p.InSubtree h l

/-- How two visits of one pass can follow each other: what is entered later comes later in
depth-first order, and after a component was left, nothing below it is visited. -/
def InTurn (p : Page) : Visit → Visit → Prop
  | .enter g, .enter h => p.ComesBefore g h
  | .enter _, .leave _ => True
  | .leave g, v => ¬ p.InSubtree v.component g

/-- The way of the pass depends on what is shown and on the lists of children. -/
theorem visitsWithin_congr {q : Page}
    (hpq : ∀ h, (q.component? h).map (fun c => (c.visible, c.children)) =
      (p.component? h).map fun c => (c.visible, c.children)) (depth : Nat) (h : Handle) :
    q.visitsWithin depth h = p.visitsWithin depth h := by
  induction depth generalizing h with
  | zero => rfl
  | succ depth ih =>
      have hh := hpq h
      rw [visitsWithin, visitsWithin, funext ih]
      cases hc : p.component? h with
      | none =>
          rw [hc, Option.map_none, Option.map_eq_none_iff] at hh
          rw [hh]
      | some c =>
          rw [hc, Option.map_some] at hh
          obtain ⟨d, hd, hsame⟩ := Option.map_eq_some_iff.1 hh
          obtain ⟨hvisible, hchildren⟩ := Prod.mk.inj hsame
          simp only [hd, hvisible, hchildren]

theorem visits_congr {q : Page} (hsize : q.slots.size = p.slots.size)
    (hpq : ∀ h, (q.component? h).map (fun c => (c.visible, c.children)) =
      (p.component? h).map fun c => (c.visible, c.children)) : q.visits = p.visits := by
  rw [visits, visits, hsize, visitsWithin_congr hpq]

theorem leave_mem_visitsWithin_iff :
    .leave g ∈ p.visitsWithin depth h ↔ .enter g ∈ p.visitsWithin depth h := by
  induction depth generalizing h with
  | zero => simp [visitsWithin]
  | succ depth ih =>
      rw [visitsWithin]
      split
      · simp
      · split
        · simp only [List.mem_cons, List.mem_append, List.mem_flatMap, Visit.enter.injEq,
            Visit.leave.injEq, List.not_mem_nil, or_false, reduceCtorEq, false_or, ih]
          exact or_comm
        · simp

namespace IsTree

/-- No component lies below two different children of one component. -/
theorem eq_of_inSubtree_siblings (ht : p.IsTree) (hk : p.parent? k = some g)
    (hl : p.parent? l = some g) (hwk : p.InSubtree w k) (hwl : p.InSubtree w l) : k = l := by
  have hbelow : ∀ {k l}, p.parent? k = some g → p.parent? l = some g → p.InSubtree k l → k = l := by
    intro k l hk hl hs
    rcases Relation.ReflTransGen.cases_head hs with he | ⟨g', hg', hs⟩
    · exact he
    · rw [hk] at hg'
      cases hg'
      exact absurd hs (ht.not_parent_inSubtree hl)
  have hunique : Relator.RightUnique fun k g => p.parent? k = some g := by
    intro k g g' hg hg'
    exact Option.some.inj (hg.symm.trans hg')
  rcases Relation.ReflTransGen.total_of_right_unique hunique hwk hwl with hs | hs
  · exact hbelow hk hl hs
  · exact (hbelow hl hk hs).symm

theorem not_comesBefore_self (ht : p.IsTree) : ¬ p.ComesBefore g g := by
  rintro (⟨-, hne⟩ | ⟨a, k, l, hk, hl, hlt, hgk, hgl⟩)
  · exact hne rfl
  · exact Nat.ne_of_lt hlt (ht.eq_of_inSubtree_siblings hk hl hgk hgl)

theorem not_inTurn_self (ht : p.IsTree) (v : Visit) : ¬ p.InTurn v v := by
  cases v with
  | enter h => exact ht.not_comesBefore_self
  | leave h => exact fun hn => hn Relation.ReflTransGen.refl

theorem isVisible_of_above (ht : p.IsTree) (hc : p.component? h = some c)
    (habove : ∀ k, c.parent = some k → p.isVisible k = true) : p.isVisible h = c.visible := by
  cases hk : c.parent with
  | none => exact holdsUpward_of_parent_none _ hc hk
  | some k =>
      rw [isVisible, holdsUpward_of_parent_some _ hc hk (ht.parent_lt hc hk)]
      have hvisible := habove k hk
      rw [isVisible] at hvisible
      rw [hvisible, Bool.and_true]

/-- The way down stops at the first component that is hidden, and so it meets what is visible up to
the page. -/
theorem enter_mem_visitsWithin (ht : p.IsTree) {depth : Nat} (hc : p.component? h = some c)
    (hroom : p.slots.size ≤ h + depth)
    (habove : ∀ k, c.parent = some k → p.isVisible k = true) :
    .enter g ∈ p.visitsWithin depth h ↔ p.InSubtree g h ∧ p.isVisible g = true := by
  induction depth generalizing h c with
  | zero => exact absurd hroom (Nat.not_le.2 (lt_size_of_live hc))
  | succ depth ih =>
      have hown := ht.isVisible_of_above hc habove
      rw [visitsWithin, hc]
      cases hvisible : c.visible with
      | false =>
          simp only [hvisible, Bool.false_eq_true, if_false, List.not_mem_nil, false_iff, not_and]
          intro hg hgvisible
          have habsurd := ht.holdsUpward_of_inSubtree hgvisible hg
          rw [← isVisible, hown, hvisible] at habsurd
          cases habsurd
      | true =>
          have hchild : ∀ k, k ∈ c.children →
              (.enter g ∈ p.visitsWithin depth k ↔ p.InSubtree g k ∧ p.isVisible g = true) := by
            intro k hk
            obtain ⟨e, he, hparent⟩ := ht.parent_of_child hc k hk
            refine ih he (ht.room_of_parent he hparent hroom) ?_
            intro k' hk'
            rw [hparent] at hk'
            cases hk'
            rw [hown, hvisible]
          simp only [hvisible, if_true, List.mem_cons, List.mem_append, List.mem_flatMap,
            Visit.enter.injEq, List.not_mem_nil, or_false, reduceCtorEq]
          rw [ht.inSubtree_iff_children hc]
          constructor
          · rintro (rfl | ⟨k, hk, hg⟩)
            · exact ⟨Or.inl rfl, hown.trans hvisible⟩
            · obtain ⟨hin, hgvisible⟩ := (hchild k hk).1 hg
              exact ⟨Or.inr ⟨k, hk, hin⟩, hgvisible⟩
          · rintro ⟨rfl | ⟨k, hk, hin⟩, hgvisible⟩
            · exact Or.inl rfl
            · exact Or.inr ⟨k, hk, (hchild k hk).2 ⟨hin, hgvisible⟩⟩

theorem enter_mem_visits_iff (ht : p.IsTree) : .enter g ∈ p.visits ↔ p.isVisible g = true := by
  obtain ⟨r, hr, hn⟩ := ht.root_live
  have habove : ∀ k, r.parent = some k → p.isVisible k = true := by
    intro k hk
    rw [hn] at hk
    cases hk
  rw [visits, ht.enter_mem_visitsWithin hr (Nat.le_add_left ..) habove]
  constructor
  · exact And.right
  · intro hvisible
    obtain ⟨d, hd⟩ := live_of_holdsUpward hvisible
    exact ⟨ht.inSubtree_root hd, hvisible⟩

theorem inSubtree_of_mem_visitsWithin (ht : p.IsTree) (hv : v ∈ p.visitsWithin depth h) :
    p.InSubtree v.component h := by
  induction depth generalizing h with
  | zero => cases hv
  | succ depth ih =>
      rw [visitsWithin] at hv
      split at hv
      · cases hv
      · next c hc =>
        split at hv
        · simp only [List.mem_cons, List.mem_append, List.mem_flatMap, List.not_mem_nil,
            or_false] at hv
          rcases hv with rfl | ⟨k, hk, hv⟩ | rfl
          · exact Relation.ReflTransGen.refl
          · exact Relation.ReflTransGen.tail (ih hv) ((ht.mem_children_iff hc).1 hk)
          · exact Relation.ReflTransGen.refl
        · cases hv

theorem inTurn_enter (hs : p.InSubtree v.component h) (hne : v.component ≠ h) :
    p.InTurn (.enter h) v := by
  cases v with
  | enter k => exact Or.inl ⟨hs, hne⟩
  | leave k => trivial

theorem inTurn_leave (ht : p.IsTree) (hs : p.InSubtree v.component h) (hne : v.component ≠ h) :
    p.InTurn v (.leave h) := by
  cases v with
  | enter k => trivial
  | leave k =>
      intro hs'
      exact hne (Nat.le_antisymm (ht.le_of_inSubtree hs') (ht.le_of_inSubtree hs))

/-- What lies below an older child is done before anything below a younger one. -/
theorem inTurn_of_siblings (ht : p.IsTree) (hk : p.parent? k = some g) (hl : p.parent? l = some g)
    (hlt : k < l) (hv : p.InSubtree v.component k) {w : Visit} (hw : p.InSubtree w.component l) :
    p.InTurn v w := by
  cases v with
  | enter a =>
      cases w with
      | enter b => exact Or.inr ⟨g, k, l, hk, hl, hlt, hv, hw⟩
      | leave b => trivial
  | leave a =>
      intro hs
      exact Nat.ne_of_lt hlt (ht.eq_of_inSubtree_siblings hk hl (hs.trans hv) hw)

theorem pairwise_visitsWithin (ht : p.IsTree) (depth : Nat) (h : Handle) :
    (p.visitsWithin depth h).Pairwise p.InTurn := by
  induction depth generalizing h with
  | zero => exact List.Pairwise.nil
  | succ depth ih =>
      rw [visitsWithin]
      split
      · exact List.Pairwise.nil
      · next c hc =>
        split
        · have hchild : ∀ {k}, k ∈ c.children → p.parent? k = some h := (ht.mem_children_iff hc).1
          have hbelow : ∀ {v}, v ∈ c.children.flatMap (p.visitsWithin depth) →
              p.InSubtree v.component h ∧ v.component ≠ h := by
            intro v hv
            obtain ⟨k, hk, hv⟩ := List.mem_flatMap.1 hv
            have hs := ht.inSubtree_of_mem_visitsWithin hv
            refine ⟨hs.tail (hchild hk), ?_⟩
            rintro rfl
            exact ht.not_parent_inSubtree (hchild hk) hs
          refine List.pairwise_cons.2 ⟨?_, List.pairwise_append.2 ⟨List.pairwise_flatMap.2 ⟨?_, ?_⟩,
            List.pairwise_singleton .., ?_⟩⟩
          · intro v hv
            rcases List.mem_append.1 hv with hv | hv
            · exact inTurn_enter (hbelow hv).1 (hbelow hv).2
            · rw [List.mem_singleton.1 hv]
              trivial
          · intro k _
            exact ih k
          · refine (ht.increasing hc).imp_of_mem ?_
            intro k l hk hl hlt v hv w hw
            exact ht.inTurn_of_siblings (hchild hk) (hchild hl) hlt
              (ht.inSubtree_of_mem_visitsWithin hv) (ht.inSubtree_of_mem_visitsWithin hw)
          · intro v hv w hw
            rw [List.mem_singleton.1 hw]
            exact ht.inTurn_leave (hbelow hv).1 (hbelow hv).2
        · exact List.Pairwise.nil

theorem leave_mem_visits_iff (ht : p.IsTree) : .leave g ∈ p.visits ↔ p.isVisible g = true := by
  rw [← ht.enter_mem_visits_iff]
  exact leave_mem_visitsWithin_iff

theorem pairwise_visits (ht : p.IsTree) : p.visits.Pairwise p.InTurn :=
  ht.pairwise_visitsWithin ..

theorem nodup_visits (ht : p.IsTree) : p.visits.Nodup := by
  refine ht.pairwise_visits.imp ?_
  rintro v _ hturn rfl
  exact ht.not_inTurn_self v hturn

end IsTree

end Page

end PageListeners
