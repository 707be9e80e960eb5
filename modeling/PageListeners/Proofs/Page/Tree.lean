import Mathlib.Logic.Relation
import PageListeners.Page.Hierarchy
import PageListeners.Text.Blank

/-!
# The live components are a tree

`IsTree` says how the parents and the lists of children of the live components belong together.
It gives an induction along the parents, by which the way up from a component is there and every
component lies below the page.
-/

namespace PageListeners

def Component.place (c : Component) : String × Option Handle × List Handle :=
  (c.id, c.parent, c.children)

namespace Page

variable {p q : Page} {g h k : Handle} {c d : Component}

/-- What a selection `f` shows can be told from a part `k` of a component that it depends on. -/
theorem map_eq_of_map_eq {β : Type} {f : Component → β} {k : Component → Component}
    (hf : ∀ c, f (k c) = f c) {o o' : Option Component} (ho : o.map k = o'.map k) :
    o.map f = o'.map f := by
  have hfactor : ∀ o : Option Component, o.map f = (o.map k).map f := by
    intro o
    cases o with
    | none => rfl
    | some c => exact congrArg some (hf c).symm
  rw [hfactor, ho, ← hfactor]

/-- What an edit of a component does not change is the same everywhere. -/
theorem map_component?_update {β : Type} {f : Component → β} {u : Component → Component}
    (hu : ∀ c, f (u c) = f c) (p : Page) (h g : Handle) :
    ((p.update h u).component? g).map f = (p.component? g).map f := by
  rw [component?_update]
  by_cases hg : g = h
  · rw [if_pos hg, Option.map_map, hg]
    exact congrArg (Option.map · _) (funext hu)
  · rw [if_neg hg]

structure IsTree (p : Page) : Prop where
  root_live : ∃ c, p.component? root = some c ∧ c.parent = none
  /-- Below the page, every component is in the list of an older one. -/
  exists_parent : ∀ {h c}, p.component? h = some c → h ≠ root →
    ∃ g d, c.parent = some g ∧ g < h ∧ p.component? g = some d ∧ h ∈ d.children
  parent_of_child : ∀ {g d}, p.component? g = some d → ∀ h ∈ d.children,
    ∃ c, p.component? h = some c ∧ c.parent = some g
  increasing : ∀ {g d}, p.component? g = some d → d.children.Pairwise (· < ·)
  siblings : ∀ {h c h' c'}, p.component? h = some c → p.component? h' = some c' →
    c.parent = c'.parent → c.id = c'.id → h = h'
  ids : ∀ {h c}, p.component? h = some c → h ≠ root →
    c.id ≠ "" ∧ ∀ a ∈ c.id.toList, a ≠ ':' ∧ Text.isBlank a = false

def SameShape (p q : Page) : Prop :=
  ∀ h, (p.component? h).map Component.place = (q.component? h).map Component.place

def InSubtree (p : Page) (h a : Handle) : Prop :=
  Relation.ReflTransGen (fun k g => p.parent? k = some g) h a

theorem parent?_eq_some :
    p.parent? h = some g ↔ ∃ c, p.component? h = some c ∧ c.parent = some g := by
  simp [parent?, Option.bind_eq_some_iff]

theorem inSubtree_iff_eq_or_child {h a : Handle} :
    p.InSubtree h a ↔ a = h ∨ ∃ k, p.InSubtree h k ∧ p.parent? k = some a :=
  Relation.ReflTransGen.cases_tail_iff _ h a

theorem inSubtree_iff_eq_or_parent {h a : Handle} :
    p.InSubtree h a ↔ h = a ∨ ∃ k, p.parent? h = some k ∧ p.InSubtree k a :=
  Relation.ReflTransGen.cases_head_iff

/-- What is outside a subtree has its parent outside. -/
theorem not_inSubtree_parent (hg : ¬ p.InSubtree k h) (hk : p.parent? k = some g) :
    ¬ p.InSubtree g h :=
  fun hs => hg (Relation.ReflTransGen.head hk hs)

namespace SameShape

theorem symm (hs : p.SameShape q) : q.SameShape p := fun h => (hs h).symm

theorem trans {r : Page} (hpq : p.SameShape q) (hqr : q.SameShape r) : p.SameShape r :=
  fun h => (hpq h).trans (hqr h)

theorem of_component?_eq (he : ∀ h, q.component? h = p.component? h) : p.SameShape q := by
  intro h
  rw [he]

theorem exists_component (hs : p.SameShape q) (hc : p.component? h = some c) :
    ∃ d, q.component? h = some d ∧ d.id = c.id ∧ d.parent = c.parent ∧ d.children = c.children := by
  have hd := hs h
  rw [hc, Option.map_some] at hd
  obtain ⟨d, hd', hplace⟩ := Option.map_eq_some_iff.1 hd.symm
  simp only [Component.place, Prod.mk.injEq] at hplace
  exact ⟨d, hd', hplace⟩

theorem update {f : Component → Component} (hf : ∀ c, (f c).place = c.place) (p : Page)
    (h : Handle) : p.SameShape (p.update h f) :=
  fun g => (map_component?_update hf p h g).symm

theorem parent?_eq (hs : p.SameShape q) (h : Handle) : q.parent? h = p.parent? h := by
  have hplace : ∀ r : Page, r.parent? h = ((r.component? h).map Component.place).bind (·.2.1) := by
    intro r
    rw [parent?]
    cases r.component? h <;> rfl
  rw [hplace, hplace, hs h]

theorem inSubtree_iff {a : Handle} (hs : p.SameShape q) : q.InSubtree h a ↔ p.InSubtree h a := by
  simp only [InSubtree, hs.parent?_eq]

end SameShape

namespace IsTree

/-- The shape decides whether a page is a tree. -/
theorem of_sameShape (ht : p.IsTree) (hs : p.SameShape q) : q.IsTree where
  root_live := by
    obtain ⟨c, hc, hnone⟩ := ht.root_live
    obtain ⟨d, hd, -, hparent, -⟩ := hs.exists_component hc
    exact ⟨d, hd, hparent.trans hnone⟩
  exists_parent := by
    intro h c hc hne
    obtain ⟨c', hc', -, hparent, -⟩ := hs.symm.exists_component hc
    obtain ⟨g, d, hg, hlt, hd, hmem⟩ := ht.exists_parent hc' hne
    obtain ⟨d', hd', -, -, hchildren⟩ := hs.exists_component hd
    exact ⟨g, d', hparent ▸ hg, hlt, hd', hchildren ▸ hmem⟩
  parent_of_child := by
    intro g d hd h hmem
    obtain ⟨d', hd', -, -, hchildren⟩ := hs.symm.exists_component hd
    obtain ⟨c, hc, hg⟩ := ht.parent_of_child hd' h (hchildren ▸ hmem)
    obtain ⟨c', hc', -, hparent, -⟩ := hs.exists_component hc
    exact ⟨c', hc', hparent.trans hg⟩
  increasing := by
    intro g d hd
    obtain ⟨d', hd', -, -, hchildren⟩ := hs.symm.exists_component hd
    exact hchildren ▸ ht.increasing hd'
  siblings := by
    intro h c h' c' hc hc' hparent hid
    obtain ⟨d, hd, hdid, hdparent, -⟩ := hs.symm.exists_component hc
    obtain ⟨d', hd', hdid', hdparent', -⟩ := hs.symm.exists_component hc'
    exact ht.siblings hd hd' (by rw [hdparent, hdparent', hparent]) (by rw [hdid, hdid', hid])
  ids := by
    intro h c hc hne
    obtain ⟨d, hd, hid, -, -⟩ := hs.symm.exists_component hc
    exact hid ▸ ht.ids hd hne

theorem update {f : Component → Component} (ht : p.IsTree) (hf : ∀ c, (f c).place = c.place) :
    (p.update h f).IsTree :=
  ht.of_sameShape (SameShape.update hf p h)

theorem parent_lt (ht : p.IsTree) (hc : p.component? h = some c) (hg : c.parent = some g) :
    g < h := by
  by_cases hr : h = root
  · obtain ⟨r, hroot, hnone⟩ := ht.root_live
    rw [hr, hroot] at hc
    cases hc
    rw [hnone] at hg
    cases hg
  · obtain ⟨g', d, hg', hlt, -, -⟩ := ht.exists_parent hc hr
    rw [hg] at hg'
    cases hg'
    exact hlt

theorem ne_root_of_parent (ht : p.IsTree) (hc : p.component? h = some c) (hg : c.parent = some g) :
    h ≠ root := by
  rintro rfl
  exact absurd (ht.parent_lt hc hg) (Nat.not_lt_zero g)

theorem mem_children_iff (ht : p.IsTree) (hd : p.component? g = some d) :
    h ∈ d.children ↔ p.parent? h = some g := by
  rw [parent?_eq_some]
  constructor
  · exact ht.parent_of_child hd h
  · rintro ⟨c, hc, hparent⟩
    obtain ⟨g', d', hg', -, hd', hmem⟩ := ht.exists_parent hc (ht.ne_root_of_parent hc hparent)
    rw [hparent] at hg'
    cases hg'
    rw [hd] at hd'
    cases hd'
    exact hmem

theorem root_not_mem_children (ht : p.IsTree) (hd : p.component? g = some d) :
    root ∉ d.children := by
  intro hmem
  obtain ⟨c, hc, hparent⟩ := ht.parent_of_child hd root hmem
  exact ht.ne_root_of_parent hc hparent rfl

theorem count_children (ht : p.IsTree) (hd : p.component? g = some d) (hmem : h ∈ d.children) :
    d.children.count h = 1 := by
  have hnodup : d.children.Nodup := (ht.increasing hd).imp Nat.ne_of_lt
  rw [hnodup.count, if_pos hmem]

theorem parent_live (ht : p.IsTree) (hg : p.parent? h = some g) :
    ∃ d, p.component? g = some d := by
  obtain ⟨c, hc, hparent⟩ := parent?_eq_some.1 hg
  obtain ⟨g', d, hg', -, hd, -⟩ := ht.exists_parent hc (ht.ne_root_of_parent hc hparent)
  rw [hparent] at hg'
  cases hg'
  exact ⟨d, hd⟩

/-- What holds of the page and passes from a component to its children holds of all components. -/
theorem induction {P : Handle → Component → Prop} (ht : p.IsTree)
    (hroot : ∀ c, p.component? root = some c → c.parent = none → P root c)
    (hchild : ∀ h c g d, p.component? h = some c → c.parent = some g → p.component? g = some d →
      g < h → P g d → P h c)
    (h : Handle) (c : Component) (hc : p.component? h = some c) : P h c := by
  induction h using Nat.strongRecOn generalizing c with
  | ind h ih =>
    by_cases hr : h = root
    · obtain ⟨r, hlive, hnone⟩ := ht.root_live
      subst hr
      rw [hlive] at hc
      cases hc
      exact hroot _ hlive hnone
    · obtain ⟨g, d, hg, hlt, hd, -⟩ := ht.exists_parent hc hr
      exact hchild h c g d hc hg hd hlt (ih g hlt d hd)

theorem inSubtree_iff_children (ht : p.IsTree) (hc : p.component? h = some c) :
    p.InSubtree g h ↔ g = h ∨ ∃ k ∈ c.children, p.InSubtree g k := by
  rw [inSubtree_iff_eq_or_child, eq_comm]
  constructor
  · rintro (he | ⟨k, hg, hk⟩)
    · exact Or.inl he
    · exact Or.inr ⟨k, (ht.mem_children_iff hc).2 hk, hg⟩
  · rintro (he | ⟨k, hk, hg⟩)
    · exact Or.inl he
    · exact Or.inr ⟨k, hg, (ht.mem_children_iff hc).1 hk⟩

/-- A way down that has room for one step more at the parent has room at the child. -/
theorem room_of_parent (ht : p.IsTree) {depth : Nat} (hc : p.component? h = some c)
    (hg : c.parent = some g) (hroom : p.slots.size ≤ g + (depth + 1)) :
    p.slots.size ≤ h + depth := by
  have hlt : g + 1 ≤ h := ht.parent_lt hc hg
  rw [← Nat.add_assoc, Nat.add_right_comm] at hroom
  exact Nat.le_trans hroom (Nat.add_le_add_right hlt depth)

theorem inSubtree_root (ht : p.IsTree) (hc : p.component? h = some c) : p.InSubtree h root := by
  refine ht.induction (P := fun h _ => p.InSubtree h root) ?_ ?_ h c hc
  · intro _ _ _
    exact Relation.ReflTransGen.refl
  · intro h c g d hc hg _ _ ih
    exact Relation.ReflTransGen.head (parent?_eq_some.2 ⟨c, hc, hg⟩) ih

end IsTree

theorem IsTree.le_of_inSubtree {a : Handle} (ht : p.IsTree) (hs : p.InSubtree h a) : a ≤ h := by
  induction hs with
  | refl => exact Nat.le_refl h
  | tail _ hk ih =>
      obtain ⟨c, hc, hparent⟩ := parent?_eq_some.1 hk
      exact Nat.le_trans (Nat.le_of_lt (ht.parent_lt hc hparent)) ih

theorem IsTree.not_parent_inSubtree (ht : p.IsTree) (hk : p.parent? k = some g) :
    ¬ p.InSubtree g k := by
  intro hs
  obtain ⟨c, hc, hg⟩ := parent?_eq_some.1 hk
  exact absurd (ht.le_of_inSubtree hs) (Nat.not_le.2 (ht.parent_lt hc hg))

end Page

end PageListeners
