import PageListeners.Proofs.Resolutions

/-!
# Disabling and hiding

A component that is disabled or hidden takes along what is below it and nothing else. Where another
listener goes is decided on the way up from it, which does not pass the component. So it stays with
its delegator, whatever else goes there.
-/

namespace PageListeners.Page

variable {p : Page} {settings : Settings} {g h : Handle} {c : Component} {site : Site}
  {l : Listener} {u : Component → Component} {s : Component → Bool}

theorem component?_update_self (hc : p.component? h = some c) (u : Component → Component) :
    (p.update h u).component? h = some (u c) := by
  rw [component?_update, if_pos rfl, hc, Option.map_some]

theorem update_update_eq_self {f : Component → Component} (hc : p.component? h = some c)
    (hback : f (u c) = c) : (p.update h u).update h f = p := by
  have hslot : p.slots[h]? = some (some c) := Option.join_eq_some_iff.1 hc
  have hslots : (p.slots.modify h (·.map u)).modify h (·.map f) = p.slots := by
    apply Array.ext_getElem?
    intro k
    by_cases hk : h = k
    · subst hk
      simp [Array.getElem?_modify, hslot, hback]
    · simp [Array.getElem?_modify, hk]
  rw [update, update, hslots]

/-- An edit that undoes what another one did gives the page back. -/
theorem apply_change_back {f : Component → Component} (hc : p.component? h = some c)
    (hback : f (u c) = c) : (Edit.change h f).apply (p.update h u) = (.ok ⟨⟩, p) := by
  rw [Edit.apply_change, component?_update_self hc]
  simp only [update_update_eq_self hc hback]

theorem listenerAt_update (hu : ∀ c, (u c).behaviors = c.behaviors) :
    (p.update h u).ListenerAt site l ↔ p.ListenerAt site l := by
  have hbehaviors : ∀ r : Page, r.ListenerAt site l ↔
      ∃ bs, (r.component? site.component).map Component.behaviors = some bs ∧
        bs[site.index]? = some (.listener l) := by
    intro r
    simp [ListenerAt]
  rw [hbehaviors, hbehaviors, map_component?_update hu]

/-- What does not hold of a component after an edit does not hold upward from below it. -/
theorem IsTree.holdsUpward_update_of_inSubtree (ht : p.IsTree)
    (hu : ∀ c, (u c).place = c.place) (hc : p.component? h = some c) (hs : s (u c) = false)
    (hg : p.InSubtree g h) : (p.update h u).holdsUpward s g = false := by
  have hq : (p.update h u).IsTree := ht.update hu
  rw [Bool.eq_false_iff]
  intro hup
  have hup' := hq.holdsUpward_of_inSubtree hup ((SameShape.update hu p h).inSubtree_iff.2 hg)
  rw [hq.apply_of_holdsUpward hup' (component?_update_self hc u)] at hs
  cases hs

/-- After an edit of component `h` the listeners there and below went where `f` says, and all others
where they went before. -/
structure IsSwitched (p : Page) (h : Handle) (f : Option Resolution → Option Resolution)
    (before after : RenderedHead) : Prop where
  inside : ∀ site, p.InSubtree site.component h →
    after.resolution? site = f (before.resolution? site)
  outside : ∀ site, ¬ p.InSubtree site.component h →
    after.resolution? site = before.resolution? site

namespace IsTree

theorem resolution?_update_of_not_inSubtree (ht : p.IsTree) (hplace : ∀ c, (u c).place = c.place)
    (hbehaviors : ∀ c, (u c).behaviors = c.behaviors) (hsite : ¬ p.InSubtree site.component h)
    (head head' : Head) :
    (RenderedHead.mk head' ((p.update h u).resolutions settings)).resolution? site =
      (RenderedHead.mk head (p.resolutions settings)).resolution? site := by
  have hline := lineage?_update_of_not_inSubtree u hsite
  have hvisible : (p.update h u).isVisible site.component = p.isVisible site.component := by
    rw [isVisible, isVisible, holdsUpward, holdsUpward, hline]
  apply Option.ext
  intro r
  simp only [(ht.update hplace).resolution?_eq_some_iff, ht.resolution?_eq_some_iff, hvisible,
    listenerAt_update hbehaviors, resolution_eq_of_lineage? hline rfl]

theorem isSwitched_of_disabled (ht : p.IsTree) (hc : p.component? h = some c)
    (hplace : ∀ c, (u c).place = c.place) (hbehaviors : ∀ c, (u c).behaviors = c.behaviors)
    (hvisible : ∀ c, (u c).visible = c.visible) (hoff : (u c).enabled = false)
    (head head' : Head) :
    p.IsSwitched h (Option.map fun _ => .suppressed) ⟨head, p.resolutions settings⟩
      ⟨head', (p.update h u).resolutions settings⟩ where
  inside := by
    intro site hsite
    have hdisabled : (p.update h u).isEnabled site.component = false :=
      ht.holdsUpward_update_of_inSubtree hplace hc hoff hsite
    -- the edit leaves the flag for showing alone, so the pass asks the same listeners as before
    have hshown : (p.update h u).isVisible site.component = p.isVisible site.component := by
      apply holdsUpward_congr
      apply map_component?_update
      intro c
      have hparent : (u c).parent = c.parent := congrArg (·.2.1) (hplace c)
      rw [hvisible, hparent]
    apply Option.ext
    intro r
    simp only [Option.map_eq_some_iff, (ht.update hplace).resolution?_eq_some_iff,
      ht.resolution?_eq_some_iff, hshown, listenerAt_update hbehaviors,
      resolution_eq_suppressed_iff.2 hdisabled]
    constructor
    · rintro ⟨hv, l, hl, rfl⟩
      exact ⟨_, ⟨hv, l, hl, rfl⟩, rfl⟩
    · rintro ⟨_, ⟨hv, l, hl, -⟩, rfl⟩
      exact ⟨hv, l, hl, rfl⟩
  outside site hsite :=
    ht.resolution?_update_of_not_inSubtree hplace hbehaviors hsite head head'

theorem isSwitched_of_hidden (ht : p.IsTree) (hc : p.component? h = some c)
    (hplace : ∀ c, (u c).place = c.place) (hbehaviors : ∀ c, (u c).behaviors = c.behaviors)
    (hoff : (u c).visible = false) (head head' : Head) :
    p.IsSwitched h (fun _ => none) ⟨head, p.resolutions settings⟩
      ⟨head', (p.update h u).resolutions settings⟩ where
  inside := by
    intro site hsite
    have hhidden : (p.update h u).isVisible site.component = false :=
      ht.holdsUpward_update_of_inSubtree hplace hc hoff hsite
    rw [Option.eq_none_iff_forall_ne_some]
    intro r hr
    rw [(ht.update hplace).resolution?_eq_some_iff, hhidden] at hr
    cases hr.1
  outside site hsite :=
    ht.resolution?_update_of_not_inSubtree hplace hbehaviors hsite head head'

end IsTree

/-- A component that is disabled or hidden takes its subtree along and nothing else: what was resolved
there is suppressed or not resolved any more, and every other listener goes where it went. Setting
the flag back gives the page back, and its head with it. -/
theorem Reachable.switches_affect_subtree (hp : p.Reachable) (hc : p.component? h = some c)
    (settings : Settings) :
    ∃ before, p.renderHead settings = .ok before ∧
      (∃ q after, (Edit.setEnabled h false).apply p = (.ok ⟨⟩, q) ∧
        q.renderHead settings = .ok after ∧
        p.IsSwitched h (Option.map fun _ => .suppressed) before after ∧
        (Edit.setEnabled h c.enabled).apply q = (.ok ⟨⟩, p)) ∧
      ∃ q after, (Edit.setVisible h false).apply p = (.ok ⟨⟩, q) ∧
        q.renderHead settings = .ok after ∧ p.IsSwitched h (fun _ => none) before after ∧
        (Edit.setVisible h c.visible).apply q = (.ok ⟨⟩, p) := by
  have ht : p.IsTree := hp.isTree
  have happly : ∀ u, (Edit.change h u).apply p = (.ok ⟨⟩, p.update h u) := by
    intro u
    rw [Edit.apply_change, hc]
  refine ⟨_, ht.renderHead_eq settings, ?_, ?_⟩
  · have hplace : ∀ c : Component, ({ c with enabled := false } : Component).place = c.place :=
      fun _ => rfl
    exact ⟨_, _, happly _, (ht.update hplace).renderHead_eq settings,
      ht.isSwitched_of_disabled hc hplace (fun _ => rfl) (fun _ => rfl) rfl _ _,
      apply_change_back hc rfl⟩
  · have hplace : ∀ c : Component, ({ c with visible := false } : Component).place = c.place :=
      fun _ => rfl
    exact ⟨_, _, happly _, (ht.update hplace).renderHead_eq settings,
      ht.isSwitched_of_hidden hc hplace (fun _ => rfl) rfl _ _, apply_change_back hc rfl⟩

def sampleButtons : Page :=
  [Operation.addComponent 1 "reset",
    .attach 3 (.listener saveListener) saveListener_isNamed].foldl Operation.run sample

/-- Without the first button the form still takes over the clicks of the second one. -/
theorem sampleButtons_switches_affect_subtree :
    ∃ q after, (Edit.setEnabled 2 false).apply sampleButtons = (.ok ⟨⟩, q) ∧
      q.renderHead {} = .ok after ∧ after.resolution? ⟨2, 0⟩ = some .suppressed ∧
      after.resolution? ⟨3, 0⟩ = some (.delegated ⟨1, 0⟩) ∧
      (Edit.setEnabled 2 true).apply q = (.ok ⟨⟩, sampleButtons) := by
  have hp : sampleButtons.Reachable := ReachableBy.foldl sample_reachable fun _ _ => trivial
  obtain ⟨c, hc, henabled⟩ : ∃ c, sampleButtons.component? 2 = some c ∧ c.enabled = true :=
    ⟨_, rfl, rfl⟩
  obtain ⟨before, hbefore, ⟨q, after, happly, hafter, hswitched, hback⟩, -⟩ :=
    hp.switches_affect_subtree hc {}
  have hrs : before.resolutions = [(⟨2, 0⟩, .delegated ⟨1, 0⟩), (⟨3, 0⟩, .delegated ⟨1, 0⟩)] := by
    rw [hp.isTree.resolutions_of_renderHead hbefore]
    decide +kernel
  refine ⟨q, after, happly, hafter, ?_, ?_, henabled ▸ hback⟩
  · rw [hswitched.inside ⟨2, 0⟩ Relation.ReflTransGen.refl, RenderedHead.resolution?, hrs]
    rfl
  · have hbeside : ¬ sampleButtons.InSubtree 3 2 := by
      intro hs
      rcases Relation.ReflTransGen.cases_head hs with he | ⟨k, hk, hs⟩
      · cases he
      · have hform : sampleButtons.parent? 3 = some 1 := by decide +kernel
        rw [hform] at hk
        cases hk
        exact absurd (hp.isTree.le_of_inSubtree hs) (by decide)
    rw [hswitched.outside ⟨3, 0⟩ hbeside, RenderedHead.resolution?, hrs]
    rfl

end PageListeners.Page
