import PageListeners.Proofs.Page.Edits
import PageListeners.Proofs.Page.Paths

/-!
# Edits keep the tree

A new component hangs below a live one, under an id that none of its siblings has, and it is
younger than all others. A component that goes takes all below it along, so that what stays is
closed under parents.
-/

namespace PageListeners.Page

variable {p : Page} {g h k parent : Handle} {c d e : Component} {id : String}

def FitsPath (id : String) : Prop :=
  id ≠ "" ∧ ∀ a ∈ id.toList, a ≠ ':' ∧ Text.isBlank a = false

theorem component?_grow (hc : p.component? parent = some c) (id : String) (g : Handle) :
    (p.grow parent id).component? g =
      if g = p.slots.size then some (p.newComponent parent id)
      else if g = parent then some { c with children := c.children ++ [p.slots.size] }
      else p.component? g := by
  have hlt := lt_size_of_live hc
  rw [grow, component?_update]
  by_cases hg : g = parent
  · rw [if_pos hg, component?_push rfl, if_neg (Nat.ne_of_lt hlt), hc, hg,
      if_neg (Nat.ne_of_lt hlt), if_pos rfl]
    rfl
  · rw [if_neg hg, component?_push rfl, if_neg hg]

/-- An old component keeps its place but for the new child of the parent. -/
theorem exists_component_grow (hc : p.component? parent = some c) (id : String)
    (hd : p.component? g = some d) :
    ∃ e, (p.grow parent id).component? g = some e ∧ e.id = d.id ∧ e.parent = d.parent ∧
      e.children = d.children ++ if g = parent then [p.slots.size] else [] := by
  rw [component?_grow hc, if_neg (Nat.ne_of_lt (lt_size_of_live hd))]
  by_cases hg : g = parent
  · subst hg
    rw [hc] at hd
    cases hd
    exact ⟨_, if_pos rfl, rfl, rfl, by rw [if_pos rfl]⟩
  · exact ⟨d, by rw [if_neg hg, hd], rfl, rfl, by rw [if_neg hg, List.append_nil]⟩

theorem grow_cases (hc : p.component? parent = some c)
    (he : (p.grow parent id).component? g = some e) :
    (g = p.slots.size ∧ e = p.newComponent parent id) ∨
      ∃ d, p.component? g = some d ∧ e.id = d.id ∧ e.parent = d.parent ∧
        e.children = d.children ++ if g = parent then [p.slots.size] else [] := by
  by_cases hnew : g = p.slots.size
  · rw [component?_grow hc, if_pos hnew] at he
    cases he
    exact Or.inl ⟨hnew, rfl⟩
  · have hold : ∃ d, p.component? g = some d := by
      rw [component?_grow hc, if_neg hnew] at he
      by_cases hg : g = parent
      · exact ⟨c, hg ▸ hc⟩
      · rw [if_neg hg] at he
        exact ⟨e, he⟩
    obtain ⟨d, hd⟩ := hold
    obtain ⟨e', he', hplace⟩ := exists_component_grow hc id hd
    rw [he] at he'
    cases he'
    exact Or.inr ⟨d, hd, hplace⟩

theorem IsTree.grow (ht : p.IsTree) (hc : p.component? parent = some c)
    (hfree : p.childNamed? c id = none) (hid : FitsPath id) : (p.grow parent id).IsTree where
  root_live := by
    obtain ⟨r, hr, hn⟩ := ht.root_live
    obtain ⟨e, he, -, hparent, -⟩ := exists_component_grow hc id hr
    exact ⟨e, he, hparent.trans hn⟩
  exists_parent := by
    intro h e he hne
    rcases grow_cases hc he with ⟨rfl, rfl⟩ | ⟨d, hd, -, hparent, -⟩
    · obtain ⟨f, hf, -, -, hchildren⟩ := exists_component_grow hc id hc
      exact ⟨parent, f, rfl, lt_size_of_live hc, hf, by simp [hchildren]⟩
    · obtain ⟨g, f, hg, hlt, hf, hmem⟩ := ht.exists_parent hd hne
      obtain ⟨f', hf', -, -, hchildren⟩ := exists_component_grow hc id hf
      exact ⟨g, f', hparent.trans hg, hlt, hf', by
        rw [hchildren]
        exact List.mem_append_left _ hmem⟩
  parent_of_child := by
    intro g e he h hmem
    rcases grow_cases hc he with ⟨rfl, rfl⟩ | ⟨d, hd, -, -, hchildren⟩
    · cases hmem
    · rw [hchildren] at hmem
      rcases List.mem_append.1 hmem with hold | hnew
      · obtain ⟨f, hf, hg⟩ := ht.parent_of_child hd h hold
        obtain ⟨f', hf', -, hparent, -⟩ := exists_component_grow hc id hf
        exact ⟨f', hf', hparent.trans hg⟩
      · by_cases hg : g = parent
        · rw [if_pos hg, List.mem_singleton] at hnew
          refine ⟨p.newComponent parent id, ?_, by rw [hg]; rfl⟩
          rw [component?_grow hc, if_pos hnew]
        · rw [if_neg hg] at hnew
          cases hnew
  increasing := by
    intro g e he
    rcases grow_cases hc he with ⟨rfl, rfl⟩ | ⟨d, hd, -, -, hchildren⟩
    · exact List.Pairwise.nil
    · rw [hchildren, List.pairwise_append]
      refine ⟨ht.increasing hd, ?_, ?_⟩
      · split
        · exact List.pairwise_singleton ..
        · exact List.Pairwise.nil
      · intro h hmem k hk
        obtain ⟨f, hf, -⟩ := ht.parent_of_child hd h hmem
        split at hk
        · rw [List.mem_singleton.1 hk]
          exact lt_size_of_live hf
        · cases hk
  siblings := by
    -- the only new pair is the new component with an old child of its parent
    have hnew : ∀ {h' d'}, p.component? h' = some d' → d'.parent = some parent → d'.id ≠ id := by
      intro h' d' hd' hparent hsame
      rw [(ht.childNamed?_eq_some_iff hc).2 ⟨d', hd', hparent, hsame⟩] at hfree
      cases hfree
    intro h e h' e' he he' hparent hsame
    rcases grow_cases hc he with ⟨rfl, rfl⟩ | ⟨d, hd, hdid, hdparent, -⟩
    · rcases grow_cases hc he' with ⟨rfl, rfl⟩ | ⟨d', hd', hdid', hdparent', -⟩
      · rfl
      · exact absurd (hdid'.symm.trans hsame.symm) (hnew hd' (hdparent'.symm.trans hparent.symm))
    · rcases grow_cases hc he' with ⟨rfl, rfl⟩ | ⟨d', hd', hdid', hdparent', -⟩
      · exact absurd (hdid.symm.trans hsame) (hnew hd (hdparent.symm.trans hparent))
      · exact ht.siblings hd hd' (by rw [← hdparent, ← hdparent', hparent])
          (by rw [← hdid, ← hdid', hsame])
  ids := by
    intro h e he hne
    rcases grow_cases hc he with ⟨rfl, rfl⟩ | ⟨d, hd, hdid, -, -⟩
    · exact hid
    · rw [hdid]
      exact ht.ids hd hne

theorem component?_discard (p : Page) (k g : Handle) :
    (p.discard k).component? g = if g = k then none else p.component? g := by
  unfold discard
  cases hk : p.component? k with
  | none =>
      by_cases hg : g = k
      · rw [if_pos hg, hg, hk]
      · rw [if_neg hg]
  | some c =>
      have hlt := lt_size_of_live hk
      simp only [component?, Array.getElem?_setIfInBounds]
      by_cases hg : k = g
      · subst hg
        simp [hlt]
      · rw [if_neg hg, if_neg (Ne.symm hg)]

theorem component?_foldl_discard (p : Page) (hs : List Handle) (g : Handle) :
    (hs.foldl discard p).component? g = if g ∈ hs then none else p.component? g := by
  induction hs generalizing p with
  | nil => rfl
  | cons k hs ih =>
      rw [List.foldl_cons, ih, component?_discard]
      by_cases hg : g ∈ hs
      · rw [if_pos hg, if_pos (List.mem_cons_of_mem k hg)]
      · rw [if_neg hg]
        by_cases hk : g = k
        · rw [if_pos hk, if_pos (List.mem_cons.2 (Or.inl hk))]
        · rw [if_neg hk, if_neg (by simp [hg, hk])]

section

variable {β : Type} {f : Component → β}

theorem map_component?_grow (hf : ∀ c hs, f { c with children := hs } = f c)
    (hc : p.component? parent = some c) (id : String) (g : Handle) :
    ((p.grow parent id).component? g).map f =
      if g = p.slots.size then some (f (p.newComponent parent id)) else (p.component? g).map f := by
  rw [component?_grow hc]
  by_cases hnew : g = p.slots.size
  · rw [if_pos hnew, if_pos hnew, Option.map_some]
  · rw [if_neg hnew, if_neg hnew]
    by_cases hg : g = parent
    · rw [if_pos hg, hg, hc, Option.map_some, Option.map_some, hf]
    · rw [if_neg hg]

theorem map_component?_cut (hf : ∀ c hs, f { c with children := hs } = f c) (p : Page) (h : Handle)
    (above : Option Handle) (g : Handle) :
    ((p.cut h above).component? g).map f =
      if g ∈ p.subtree h then none else (p.component? g).map f := by
  have hprune : ((p.prune h).component? g).map f =
      if g ∈ p.subtree h then none else (p.component? g).map f := by
    rw [prune, component?_foldl_discard]
    split <;> rfl
  cases above with
  | none => exact hprune
  | some k =>
      rw [cut, map_component?_update]
      · exact hprune
      · intro c
        exact hf c _

end

/-- The depth is enough, since handles grow on the way down and stay below the number of slots. -/
theorem IsTree.mem_subtreeWithin (ht : p.IsTree) {depth : Nat} (hc : p.component? h = some c)
    (hdepth : p.slots.size ≤ h + depth) :
    g ∈ p.subtreeWithin depth h ↔ p.InSubtree g h := by
  induction depth generalizing h c with
  | zero => exact absurd hdepth (Nat.not_le.2 (lt_size_of_live hc))
  | succ depth ih =>
      have hchild : ∀ k, k ∈ c.children → (g ∈ p.subtreeWithin depth k ↔ p.InSubtree g k) := by
        intro k hk
        obtain ⟨e, he, hparent⟩ := ht.parent_of_child hc k hk
        exact ih he (ht.room_of_parent he hparent hdepth)
      rw [subtreeWithin, hc, ht.inSubtree_iff_children hc]
      simp only [List.mem_cons, List.mem_flatMap]
      constructor
      · rintro (rfl | ⟨k, hk, hg⟩)
        · exact Or.inl rfl
        · exact Or.inr ⟨k, hk, (hchild k hk).1 hg⟩
      · rintro (rfl | ⟨k, hk, hg⟩)
        · exact Or.inl rfl
        · exact Or.inr ⟨k, hk, (hchild k hk).2 hg⟩

theorem IsTree.mem_subtree_iff (ht : p.IsTree) (hc : p.component? h = some c) :
    g ∈ p.subtree h ↔ p.InSubtree g h :=
  ht.mem_subtreeWithin hc (Nat.le_add_left ..)

theorem IsTree.component?_prune (ht : p.IsTree) (hc : p.component? h = some c)
    (hg : ¬ p.InSubtree g h) : (p.prune h).component? g = p.component? g := by
  rw [prune, component?_foldl_discard, if_neg (mt (ht.mem_subtree_iff hc).1 hg)]

theorem IsTree.component?_prune_of_inSubtree (ht : p.IsTree) (hc : p.component? h = some c)
    (hg : p.InSubtree g h) : (p.prune h).component? g = none := by
  rw [prune, component?_foldl_discard, if_pos ((ht.mem_subtree_iff hc).2 hg)]

/-- What stays when a component goes keeps its place, without that component among its children. -/
theorem IsTree.exists_component_cut (ht : p.IsTree) (hc : p.component? h = some c)
    (hg : ¬ p.InSubtree g h) (hd : p.component? g = some d) :
    ∃ e, (p.cut h c.parent).component? g = some e ∧ e.id = d.id ∧ e.parent = d.parent ∧
      e.children = d.children.filter (· ≠ h) := by
  have hstay := (ht.component?_prune hc hg).trans hd
  by_cases hparent : c.parent = some g
  · refine ⟨{ d with children := d.children.filter (· ≠ h) }, ?_, rfl, rfl, rfl⟩
    rw [hparent, cut, component?_update, if_pos rfl, hstay]
    rfl
  · have hsame : (p.cut h c.parent).component? g = some d := by
      unfold cut
      cases hk : c.parent with
      | none => exact hstay
      | some k =>
          have hne : g ≠ k := by
            rintro rfl
            exact hparent hk
          rw [component?_update, if_neg hne, hstay]
    refine ⟨d, hsame, rfl, rfl, (List.filter_eq_self.2 ?_).symm⟩
    intro k hk
    rw [decide_eq_true_iff]
    rintro rfl
    obtain ⟨e, he, hek⟩ := ht.parent_of_child hd k hk
    rw [hc] at he
    cases he
    exact hparent hek

theorem IsTree.component?_cut_of_inSubtree (ht : p.IsTree) (hc : p.component? h = some c)
    (hg : p.InSubtree g h) : (p.cut h c.parent).component? g = none := by
  have hgone := ht.component?_prune_of_inSubtree hc hg
  unfold cut
  cases hk : c.parent with
  | none => exact hgone
  | some k =>
      have hne : g ≠ k := by
        rintro rfl
        exact ht.not_parent_inSubtree (parent?_eq_some.2 ⟨c, hc, hk⟩) hg
      rw [component?_update, if_neg hne, hgone]

theorem IsTree.cut_cases (ht : p.IsTree) (hc : p.component? h = some c)
    (he : (p.cut h c.parent).component? g = some e) :
    ¬ p.InSubtree g h ∧ ∃ d, p.component? g = some d ∧ e.id = d.id ∧ e.parent = d.parent ∧
      e.children = d.children.filter (· ≠ h) := by
  have hg : ¬ p.InSubtree g h := by
    intro hg
    rw [ht.component?_cut_of_inSubtree hc hg] at he
    cases he
  refine ⟨hg, ?_⟩
  cases hd : p.component? g with
  | none =>
      have hgone := (ht.component?_prune hc hg).trans hd
      unfold cut at he
      cases hk : c.parent with
      | none =>
          rw [hk, hgone] at he
          cases he
      | some k =>
          rw [hk, component?_update] at he
          by_cases hgk : g = k
          · rw [if_pos hgk, ← hgk, hgone] at he
            cases he
          · rw [if_neg hgk, hgone] at he
            cases he
  | some d =>
      obtain ⟨e', he', hplace⟩ := ht.exists_component_cut hc hg hd
      rw [he] at he'
      cases he'
      exact ⟨d, rfl, hplace⟩

theorem IsTree.cut (ht : p.IsTree) (hne : h ≠ root) (hc : p.component? h = some c) :
    (p.cut h c.parent).IsTree where
  root_live := by
    obtain ⟨r, hr, hn⟩ := ht.root_live
    have hroot : ¬ p.InSubtree root h := fun hs => hne (Nat.le_zero.1 (ht.le_of_inSubtree hs))
    obtain ⟨e, he, -, hparent, -⟩ := ht.exists_component_cut hc hroot hr
    exact ⟨e, he, hparent.trans hn⟩
  exists_parent := by
    intro k e he hk
    obtain ⟨hstay, d, hd, -, hparent, -⟩ := ht.cut_cases hc he
    obtain ⟨g, f, hg, hlt, hf, hmem⟩ := ht.exists_parent hd hk
    have hgstay := not_inSubtree_parent hstay (parent?_eq_some.2 ⟨d, hd, hg⟩)
    obtain ⟨f', hf', -, -, hchildren⟩ := ht.exists_component_cut hc hgstay hf
    refine ⟨g, f', hparent.trans hg, hlt, hf', ?_⟩
    rw [hchildren, List.mem_filter, decide_eq_true_iff]
    refine ⟨hmem, ?_⟩
    rintro rfl
    exact hstay Relation.ReflTransGen.refl
  parent_of_child := by
    intro g e he k hk
    obtain ⟨hgstay, d, hd, -, -, hchildren⟩ := ht.cut_cases hc he
    rw [hchildren, List.mem_filter, decide_eq_true_iff] at hk
    obtain ⟨f, hf, hg⟩ := ht.parent_of_child hd k hk.1
    have hstay : ¬ p.InSubtree k h := by
      intro hs
      rcases Relation.ReflTransGen.cases_head hs with rfl | ⟨g', hg', hs'⟩
      · exact hk.2 rfl
      · rw [parent?_eq_some.2 ⟨f, hf, hg⟩] at hg'
        cases hg'
        exact hgstay hs'
    obtain ⟨f', hf', -, hparent, -⟩ := ht.exists_component_cut hc hstay hf
    exact ⟨f', hf', hparent.trans hg⟩
  increasing := by
    intro g e he
    obtain ⟨-, d, hd, -, -, hchildren⟩ := ht.cut_cases hc he
    rw [hchildren]
    exact (ht.increasing hd).filter _
  siblings := by
    intro k e k' e' he he' hparent hsame
    obtain ⟨-, d, hd, hdid, hdparent, -⟩ := ht.cut_cases hc he
    obtain ⟨-, d', hd', hdid', hdparent', -⟩ := ht.cut_cases hc he'
    exact ht.siblings hd hd' (by rw [← hdparent, ← hdparent', hparent])
      (by rw [← hdid, ← hdid', hsame])
  ids := by
    intro k e he hk
    obtain ⟨-, d, hd, hdid, -, -⟩ := ht.cut_cases hc he
    rw [hdid]
    exact ht.ids hd hk

theorem IsTree.apply_removeComponent (ht : p.IsTree) (hne : h ≠ root)
    (hc : p.component? h = some c) :
    (Edit.removeComponent h).apply p = (.ok ⟨⟩, p.cut h c.parent) := by
  refine Edit.apply_removeComponent p hne hc ?_
  intro g hg
  have hparent : p.parent? h = some g := parent?_eq_some.2 ⟨c, hc, hg⟩
  obtain ⟨d, hd⟩ := ht.parent_live hparent
  exact ⟨d, (ht.component?_prune hc (ht.not_parent_inSubtree hparent)).trans hd⟩

/-- A removal either is refused and changes nothing, or takes out the whole subtree. -/
theorem IsTree.apply_removeComponent_cases (ht : p.IsTree) (h : Handle) :
    (∃ e, (Edit.removeComponent h).apply p = (.error e, p)) ∨
      ∃ c, h ≠ root ∧ p.component? h = some c ∧
        (Edit.removeComponent h).apply p = (.ok ⟨⟩, p.cut h c.parent) := by
  by_cases hne : h = root
  · rw [hne]
    exact Or.inl ⟨_, Edit.apply_removeComponent_root p⟩
  · cases hc : p.component? h with
    | none => exact Or.inl ⟨_, Edit.apply_removeComponent_dead p hne hc⟩
    | some c => exact Or.inr ⟨c, hne, rfl, ht.apply_removeComponent hne hc⟩

end PageListeners.Page
