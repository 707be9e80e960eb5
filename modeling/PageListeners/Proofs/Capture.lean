import PageListeners.Proofs.Appearance
import PageListeners.Proofs.Delegation

/-!
# What a new delegator takes over

A delegator that is attached to a component comes last there, and so it takes over only where no
delegator for its event is on the component or nearer. Elsewhere the nearest one stays what it was,
although the new one may be the first for its event that the registry counts. Detached again, it
leaves a page that looks like the one before.
-/

namespace PageListeners.Page

variable {p q : Page} {settings : Settings} {a b h : Handle} {c : Component} {t t' site : Site}
  {d : Delegator} {l : Listener} {x y : Behavior} {index : Nat} {s : Delegator → Prop}

/-- Component `b` is above `h`, and no delegator with `s` is on `b` or between the two. -/
def InReach (p : Page) (s : Delegator → Prop) (b h : Handle) : Prop :=
  p.IsAbove b h ∧ ∀ a i d, p.IsAbove a h → p.InSubtree a b → p.DelegatorAt ⟨a, i⟩ d → ¬ s d

/-- The listeners for an event that a delegator on component `b` takes over: those that are not
suppressed, lie below `b` and have no delegator for the event on `b` or on the way up to it. -/
def Captures (p : Page) (before : RenderedHead) (b : Handle) (event : String) (site : Site) : Prop :=
  (∃ r, before.resolution? site = some r ∧ r ≠ .suppressed) ∧
    (∃ l, p.ListenerAt site l ∧ l.event = event) ∧ p.InReach (·.event = event) b site.component

/-- Page `q` has one delegator more, which is the last of its component. -/
structure Gains (p q : Page) (t : Site) (d : Delegator) : Prop where
  sameShape : p.SameShape q
  delegatorAt_iff : ∀ t' e, q.DelegatorAt t' e ↔ p.DelegatorAt t' e ∨ t' = t ∧ e = d
  last : ∀ i e, p.DelegatorAt ⟨t.component, i⟩ e → i < t.index

namespace Gains

theorem isAbove_iff (hg : p.Gains q t d) : q.IsAbove a h ↔ p.IsAbove a h := by
  rw [IsAbove, IsAbove, hg.sameShape.inSubtree_iff]

theorem inSubtree_iff (hg : p.Gains q t d) : q.InSubtree a b ↔ p.InSubtree a b :=
  hg.sameShape.inSubtree_iff

theorem isNearest_of_inReach (hg : p.Gains q t d) (hs : s d)
    (hr : p.InReach s t.component h) : q.IsNearest s h t where
  above := hg.isAbove_iff.2 hr.1
  selected := ⟨d, (hg.delegatorAt_iff t d).2 (Or.inr ⟨rfl, rfl⟩), hs⟩
  first := by
    intro i e hlt he
    rcases (hg.delegatorAt_iff _ e).1 he with hold | ⟨hsame, -⟩
    · exact hr.2 t.component i e hr.1 Relation.ReflTransGen.refl hold
    · exact absurd (congrArg Site.index hsame) (Nat.ne_of_lt hlt)
  nearest := by
    intro a i e ha hat hne he
    rcases (hg.delegatorAt_iff _ e).1 he with hold | ⟨hsame, -⟩
    · exact hr.2 a i e (hg.isAbove_iff.1 ha) (hg.inSubtree_iff.1 hat) hold
    · exact absurd (congrArg Site.component hsame) hne

/-- It is the nearest one only in its reach, as others on its component come first. -/
theorem inReach_of_isNearest (hg : p.Gains q t d) (hn : q.IsNearest s h t) :
    p.InReach s t.component h := by
  refine ⟨hg.isAbove_iff.1 hn.above, ?_⟩
  intro a i e ha hat he
  have hgained := (hg.delegatorAt_iff _ e).2 (Or.inl he)
  by_cases hat' : a = t.component
  · subst hat'
    exact hn.first i e (hg.last i e he) hgained
  · exact hn.nearest a i e (hg.isAbove_iff.2 ha) (hg.inSubtree_iff.2 hat) hat' hgained

/-- Out of its reach the new delegator changes nothing in which one is the nearest. -/
theorem isNearest_iff (hg : p.Gains q t d) (ht : p.IsTree)
    (hr : s d → ¬ p.InReach s t.component h) : q.IsNearest s h t' ↔ p.IsNearest s h t' := by
  constructor
  · intro hn
    refine ⟨hg.isAbove_iff.1 hn.above, ?_, ?_, ?_⟩
    · obtain ⟨e, he, hs⟩ := hn.selected
      rcases (hg.delegatorAt_iff t' e).1 he with hold | ⟨rfl, rfl⟩
      · exact ⟨e, hold, hs⟩
      · exact absurd (hg.inReach_of_isNearest hn) (hr hs)
    · intro i e hlt he
      exact hn.first i e hlt ((hg.delegatorAt_iff _ e).2 (Or.inl he))
    · intro a i e ha hat hne he
      exact hn.nearest a i e (hg.isAbove_iff.2 ha) (hg.inSubtree_iff.2 hat) hne
        ((hg.delegatorAt_iff _ e).2 (Or.inl he))
  · intro hn
    obtain ⟨x, hx, hsx⟩ := hn.selected
    refine ⟨hg.isAbove_iff.2 hn.above, ⟨x, (hg.delegatorAt_iff t' x).2 (Or.inl hx), hsx⟩, ?_, ?_⟩
    · intro i e hlt he
      rcases (hg.delegatorAt_iff _ e).1 he with hold | ⟨rfl, -⟩
      · exact hn.first i e hlt hold
      · exact absurd hlt (Nat.lt_asymm (hg.last t'.index x hx))
    · intro a i e ha hat hne he
      have ha := hg.isAbove_iff.1 ha
      have hat := hg.inSubtree_iff.1 hat
      rcases (hg.delegatorAt_iff _ e).1 he with hold | ⟨rfl, rfl⟩
      · exact hn.nearest a i e ha hat hne hold
      · intro hs
        -- the new one would be nearer than `t'` and so in reach: what is on its component or
        -- nearer still is nearer than `t'` too
        refine hr hs ⟨ha, ?_⟩
        intro k j e' hk hka he'
        refine hn.nearest k j e' hk (Relation.ReflTransGen.trans hka hat) ?_ he'
        rintro rfl
        exact hne (Nat.le_antisymm (ht.le_of_inSubtree hka) (ht.le_of_inSubtree hat))

end Gains

theorem getElem?_concat_eq_some_iff {xs : List Behavior} :
    (xs ++ [x])[index]? = some y ↔ xs[index]? = some y ∨ index = xs.length ∧ y = x := by
  rcases Nat.lt_trichotomy index xs.length with hlt | rfl | hlt
  · rw [List.getElem?_append_left hlt]
    simp [Nat.ne_of_lt hlt]
  · simp [eq_comm]
  · have hend : (xs ++ [x]).length ≤ index := by
      rw [List.length_append, List.length_singleton]
      exact hlt
    rw [List.getElem?_eq_none hend, List.getElem?_eq_none (Nat.le_of_lt hlt)]
    simp [Nat.ne_of_gt hlt]

theorem behaviorAt_withBehavior (hc : p.component? b = some c) (x : Behavior) (h : Handle)
    (index : Nat) (y : Behavior) :
    (∃ e, (p.withBehavior b x).component? h = some e ∧ e.behaviors[index]? = some y) ↔
      (∃ e, p.component? h = some e ∧ e.behaviors[index]? = some y) ∨
        Site.mk h index = ⟨b, c.behaviors.length⟩ ∧ y = x := by
  rw [component?_withBehavior]
  by_cases hb : h = b
  · subst hb
    simp [hc, getElem?_concat_eq_some_iff]
  · simp [hb]

theorem gains_withBehavior (hc : p.component? b = some c) (d : Delegator) :
    p.Gains (p.withBehavior b (.delegator d)) ⟨b, c.behaviors.length⟩ d where
  sameShape := sameShape_withBehavior p b _
  delegatorAt_iff := by
    intro t e
    have hiff := behaviorAt_withBehavior hc (.delegator d) t.component t.index (.delegator e)
    rw [Behavior.delegator.injEq] at hiff
    exact hiff
  last := by
    intro i e he
    exact (List.getElem?_eq_some_iff.1 ((delegatorAt_iff hc).1 he)).1

theorem listenerAt_withBehavior (hc : p.component? b = some c) :
    (p.withBehavior b (.delegator d)).ListenerAt site l ↔ p.ListenerAt site l := by
  have hiff :=
    behaviorAt_withBehavior hc (.delegator d) site.component site.index (.listener l)
  simp only [reduceCtorEq, and_false, or_false] at hiff
  exact hiff

theorem map_component?_withBehavior {β : Type} {f : Component → β} (p : Page) (b : Handle)
    (hf : ∀ c, f { c with outputMarkupId := true, behaviors := c.behaviors ++ [x] } = f c)
    (h : Handle) : ((p.withBehavior b x).component? h).map f = (p.component? h).map f :=
  map_component?_update hf { p with delegations := x.enter p.delegations } b h

theorem holdsUpward_withBehavior (p : Page) (b : Handle) {s : Component → Bool}
    (hs : ∀ c, s { c with outputMarkupId := true, behaviors := c.behaviors ++ [x] } = s c)
    (h : Handle) : (p.withBehavior b x).holdsUpward s h = p.holdsUpward s h := by
  apply holdsUpward_congr
  apply map_component?_withBehavior
  intro c
  rw [hs]

theorem listeners_concat_delegator (c : Component) (d : Delegator) (written : Bool) :
    ({ c with outputMarkupId := written, behaviors := c.behaviors ++ [.delegator d] } :
      Component).listeners = c.listeners := by
  simp [Component.listeners, List.zipIdx_append, Behavior.listener?]

/-- A delegator more changes nothing in which listeners are resolved and in which order. -/
theorem map_fst_resolutions_withBehavior (p : Page) (settings : Settings) (b : Handle)
    (d : Delegator) :
    ((p.withBehavior b (.delegator d)).resolutions settings).map (·.1) =
      (p.resolutions settings).map (·.1) := by
  have hvisits : (p.withBehavior b (.delegator d)).visits = p.visits :=
    visits_congr (Array.size_modify ..) (map_component?_withBehavior p b fun _ => rfl)
  have hsites : (p.withBehavior b (.delegator d)).sitesAt = p.sitesAt :=
    sitesAt_congr (map_component?_withBehavior p b fun c => listeners_concat_delegator c d true)
  rw [map_fst_resolutions, map_fst_resolutions, hvisits, hsites]

theorem looksLike_detached (hc : p.component? b = some c) (x : Behavior) :
    ((p.withBehavior b x).withoutBehavior b c.behaviors.length x).LooksLike p where
  id_eq := rfl
  parameters_eq := rfl
  size_eq := (Array.size_modify ..).trans (Array.size_modify ..)
  unwritten_eq := by
    intro h
    rw [component?_withoutBehavior, component?_withBehavior, component?_withBehavior]
    by_cases hb : h = b
    · have hback : (c.behaviors ++ [x]).eraseIdx c.behaviors.length = c.behaviors := by
        rw [List.eraseIdx_append_of_length_le (Nat.le_refl _), Nat.sub_self]
        simp
      rw [if_pos hb, if_pos rfl, hb, hc]
      simp only [Option.map_some, Component.unwritten, hback]
    · rw [if_neg hb, if_neg hb]
  isRegistered_eq := by
    intro event
    have hcount : (x.leave (x.enter p.delegations)).count event = p.delegations.count event := by
      rw [Behavior.count_leave, Behavior.count_enter, Nat.add_sub_cancel]
    exact congrArg (fun n => decide (0 < n)) hcount

namespace ReachableBy

variable {e : String}

theorem isNamed_of_listenerAt {allowed : Operation → Prop} (hp : ReachableBy allowed p)
    (hl : p.ListenerAt site l) : ∃ e, eventName e = .ok l.event := by
  obtain ⟨c, hc, hb⟩ := hl
  exact hp.isNamed hc _ (List.mem_of_getElem? hb)

theorem of_attach (hp : ReachableBy Operation.KeepsCount p) (hc : p.component? b = some c)
    (hd : (Behavior.delegator d).IsNamed) :
    ReachableBy Operation.KeepsCount (p.withBehavior b (.delegator d)) := by
  have hrun : ReachableBy Operation.KeepsCount ((Operation.attach b (.delegator d) hd).run p) :=
    hp.step trivial
  rwa [Operation.run, Edit.apply_attach, hc] at hrun

theorem resolution_of_inReach (hq : ReachableBy Operation.KeepsCount q) (hg : p.Gains q t d)
    (hon : settings.delegationEnabled = true) (hopen : q.isEnabled h = true)
    (hname : eventName e = .ok l.event) (hevent : d.event = l.event)
    (hr : p.InReach (·.event = l.event) t.component h) :
    q.resolution settings h l = .delegated t := by
  have hn : q.IsNearest (·.event = l.event) h t := hg.isNearest_of_inReach hevent hr
  exact resolution_eq_delegated_iff.2
    ⟨hopen, hon, (hq.delegatorFor?_eq_some_iff hname).2 hn⟩

theorem resolution_of_not_inReach (hp : ReachableBy Operation.KeepsCount p)
    (hq : ReachableBy Operation.KeepsCount q) (hg : p.Gains q t d)
    (hopen : q.isEnabled h = p.isEnabled h) (hname : eventName e = .ok l.event)
    (hr : d.event = l.event → ¬ p.InReach (·.event = l.event) t.component h) :
    q.resolution settings h l = p.resolution settings h l := by
  have hsame : q.delegatorFor? h l.event = p.delegatorFor? h l.event := by
    apply Option.ext
    intro t'
    rw [hq.delegatorFor?_eq_some_iff hname, hp.delegatorFor?_eq_some_iff hname,
      hg.isNearest_iff hp.isTree hr]
  rw [resolution, resolution, hopen, delegationTarget?, delegationTarget?, hsame]

theorem resolution?_of_captures (hp : ReachableBy Operation.KeepsCount p)
    (hon : settings.delegationEnabled = true) (hc : p.component? b = some c)
    (hd : (Behavior.delegator d).IsNamed) {head : Head} (head' : Head)
    (hcaptured : p.Captures ⟨head, p.resolutions settings⟩ b d.event site) :
    (RenderedHead.mk head' ((p.withBehavior b (.delegator d)).resolutions settings)).resolution?
      site = some (.delegated ⟨b, c.behaviors.length⟩) := by
  have hq := hp.of_attach hc hd
  obtain ⟨⟨r, hr, hbound⟩, ⟨l, hl, hevent⟩, hreach⟩ := hcaptured
  obtain ⟨hvisible, l', hl', rfl⟩ := hp.isTree.resolution?_eq_some_iff.1 hr
  cases hl.unique hl'
  obtain ⟨e, hname⟩ := hp.isNamed_of_listenerAt hl
  have hopen : (p.withBehavior b (.delegator d)).isEnabled site.component = true := by
    rw [isEnabled, holdsUpward_withBehavior p b fun _ => rfl]
    rwa [ne_eq, resolution_eq_suppressed_iff, Bool.not_eq_false] at hbound
  refine hq.isTree.resolution?_eq_some_iff.2 ⟨?_, l, (listenerAt_withBehavior hc).2 hl, ?_⟩
  · rwa [isVisible, holdsUpward_withBehavior p b fun _ => rfl]
  · exact (hq.resolution_of_inReach (gains_withBehavior hc d) hon hopen hname hevent.symm
      (hevent ▸ hreach)).symm

theorem resolution?_of_not_captures (hp : ReachableBy Operation.KeepsCount p)
    (hc : p.component? b = some c) (hd : (Behavior.delegator d).IsNamed) (head head' : Head)
    (hnot : ¬ p.Captures ⟨head, p.resolutions settings⟩ b d.event site) :
    (RenderedHead.mk head' ((p.withBehavior b (.delegator d)).resolutions settings)).resolution?
      site = (RenderedHead.mk head (p.resolutions settings)).resolution? site := by
  have hq := hp.of_attach hc hd
  have hopen : (p.withBehavior b (.delegator d)).isEnabled site.component =
      p.isEnabled site.component := holdsUpward_withBehavior p b (fun _ => rfl) _
  have hsame : p.isVisible site.component = true → ∀ l, p.ListenerAt site l →
      (p.withBehavior b (.delegator d)).resolution settings site.component l =
        p.resolution settings site.component l := by
    intro hvisible l hl
    by_cases hsuppressed : p.resolution settings site.component l = .suppressed
    · rw [hsuppressed, resolution_eq_suppressed_iff, hopen]
      exact resolution_eq_suppressed_iff.1 hsuppressed
    · obtain ⟨e, hname⟩ := hp.isNamed_of_listenerAt hl
      refine hp.resolution_of_not_inReach hq (gains_withBehavior hc d) hopen hname ?_
      intro hevent hreach
      have hr : (RenderedHead.mk head (p.resolutions settings)).resolution? site =
          some (p.resolution settings site.component l) :=
        hp.isTree.resolution?_eq_some_iff.2 ⟨hvisible, l, hl, rfl⟩
      exact hnot ⟨⟨_, hr, hsuppressed⟩, ⟨l, hl, hevent.symm⟩, hevent ▸ hreach⟩
  apply Option.ext
  intro r
  rw [hq.isTree.resolution?_eq_some_iff, hp.isTree.resolution?_eq_some_iff, isVisible,
    holdsUpward_withBehavior p b fun _ => rfl]
  simp only [listenerAt_withBehavior hc]
  apply and_congr_right
  intro hvisible
  apply exists_congr
  intro l
  apply and_congr_right
  intro hl
  rw [hsame hvisible l hl]

/-- A delegator that is attached takes over what it captures, and every other listener goes where it
went. When it is detached, the head is again what it was. -/
theorem attach_captures (hp : ReachableBy Operation.KeepsCount p)
    (hon : settings.delegationEnabled = true) (hc : p.component? b = some c)
    (hd : (Behavior.delegator d).IsNamed) :
    ∃ before k q after r, p.renderHead settings = .ok before ∧
      (Edit.attach b (.delegator d)).apply p = (.ok k, q) ∧ q.renderHead settings = .ok after ∧
      after.resolutions.map (·.1) = before.resolutions.map (·.1) ∧
      (∀ site, (p.Captures before b d.event site →
          after.resolution? site = some (.delegated ⟨b, k⟩)) ∧
        (¬ p.Captures before b d.event site →
          after.resolution? site = before.resolution? site)) ∧
      (Edit.detach b k).apply q = (.ok (.delegator d), r) ∧ r.renderHead settings = .ok before := by
  have ht : p.IsTree := hp.isTree
  have hattach : (Edit.attach b (.delegator d)).apply p =
      (.ok c.behaviors.length, p.withBehavior b (.delegator d)) := by
    rw [Edit.apply_attach, hc]
  have hq := hp.of_attach hc hd
  have hdetach : (Edit.detach b c.behaviors.length).apply (p.withBehavior b (.delegator d)) =
      (.ok (.delegator d), (p.withBehavior b (.delegator d)).withoutBehavior b c.behaviors.length
        (.delegator d)) := by
    rw [Edit.apply_detach, component?_withBehavior, if_pos rfl, hc]
    simp
  have hlook := looksLike_detached hc (.delegator d)
  refine ⟨_, _, _, _, _, ht.renderHead_eq settings, hattach, hq.isTree.renderHead_eq settings,
    map_fst_resolutions_withBehavior p settings b d, ?_, hdetach,
    (hlook.renderHead_eq ht settings).trans (ht.renderHead_eq settings)⟩
  intro site
  exact ⟨hp.resolution?_of_captures hon hc hd _, hp.resolution?_of_not_captures hc hd _ _⟩

end ReachableBy

def sampleIcon : Page :=
  [Operation.addComponent 2 "icon",
    .attach 3 (.listener saveListener) saveListener_isNamed].foldl Operation.run sample

/-- The icon has no delegator nearer than one on the button. -/
theorem sampleIcon_inReach : sampleIcon.InReach (·.event = "click") 2 3 := by
  have ht : sampleIcon.IsTree := (ReachableBy.foldl sample_reachable fun _ _ => trivial).isTree
  have hparent : sampleIcon.parent? 3 = some 2 := by decide +kernel
  refine ⟨⟨by decide, by decide, Relation.ReflTransGen.single hparent⟩, ?_⟩
  rintro a i d ⟨-, hne, hbelow⟩ hat ⟨c, hc, hd⟩
  have hle : a ≤ 3 := ht.le_of_inSubtree hbelow
  have hge : 2 ≤ a := ht.le_of_inSubtree hat
  obtain rfl : a = 2 := Nat.le_antisymm (Nat.le_of_lt_succ (Nat.lt_of_le_of_ne hle hne)) hge
  obtain ⟨c', hc', hb⟩ : ∃ c, sampleIcon.component? 2 = some c ∧
      c.behaviors = [.listener saveListener] := ⟨_, rfl, rfl⟩
  rw [hc] at hc'
  cases hc'
  rw [hb] at hd
  cases List.mem_singleton.1 (List.mem_of_getElem? hd)

/-- A delegator on the button takes over the clicks on the icon, but not those on the button. -/
theorem sampleIcon_attach_captures :
    ∃ before q after r, sampleIcon.renderHead {} = .ok before ∧
      before.resolution? ⟨3, 0⟩ = some (.delegated ⟨1, 0⟩) ∧
      (Edit.attach 2 (.delegator ⟨"click"⟩)).apply sampleIcon = (.ok 1, q) ∧
      q.renderHead {} = .ok after ∧ after.resolution? ⟨3, 0⟩ = some (.delegated ⟨2, 1⟩) ∧
      after.resolution? ⟨2, 0⟩ = some (.delegated ⟨1, 0⟩) ∧
      (Edit.detach 2 1).apply q = (.ok (.delegator ⟨"click"⟩), r) ∧
      r.renderHead {} = .ok before := by
  have hp : ReachableBy Operation.KeepsCount sampleIcon := by
    refine ReachableBy.foldl sample_keepsCount ?_
    simp [Operation.KeepsCount]
  obtain ⟨c, hc⟩ : ∃ c, sampleIcon.component? 2 = some c := ⟨_, rfl⟩
  have hname : (Behavior.delegator ⟨"click"⟩).IsNamed := ⟨"click", rfl⟩
  have hon : ({} : Settings).delegationEnabled = true := rfl
  obtain ⟨before, k, q, after, r, hbefore, hattach, hafter, -, hsites, hdetach, hr⟩ :=
    hp.attach_captures hon hc hname
  have hrs : before.resolutions = [(⟨2, 0⟩, .delegated ⟨1, 0⟩), (⟨3, 0⟩, .delegated ⟨1, 0⟩)] := by
    rw [hp.isTree.resolutions_of_renderHead hbefore]
    decide +kernel
  have hindex : ((Edit.attach 2 (.delegator ⟨"click"⟩)).apply sampleIcon).1 = .ok 1 := rfl
  rw [hattach, Except.ok.injEq] at hindex
  subst hindex
  refine ⟨before, q, after, r, hbefore, ?_, hattach, hafter, ?_, ?_, hdetach, hr⟩
  · rw [RenderedHead.resolution?, hrs]
    rfl
  · refine (hsites ⟨3, 0⟩).1 ⟨⟨.delegated ⟨1, 0⟩, ?_, by decide⟩, ⟨saveListener, ?_, rfl⟩, ?_⟩
    · rw [RenderedHead.resolution?, hrs]
      rfl
    · exact ⟨_, rfl, rfl⟩
    · exact sampleIcon_inReach
  · rw [(hsites ⟨2, 0⟩).2 fun hcaptured => hcaptured.2.2.1.2.1 rfl, RenderedHead.resolution?, hrs]
    rfl

end PageListeners.Page
