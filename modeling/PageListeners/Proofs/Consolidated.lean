import PageListeners.Proofs.Contributions
import PageListeners.Proofs.Page.MarkupIds
import PageListeners.Proofs.Scripts

/-!
# Consolidated scripts

A delegator writes one script for all listeners that went to it. While the pass is under way the
contributions wait for their delegators, and at its end each has been collected where it belongs.
-/

namespace PageListeners

namespace Page

variable {p : Page} {settings : Settings} {h : Handle} {site t : Site} {c : Component}
  {d : Delegator} {v : Visit} {script : String}

def IsOwnScript (p : Page) (settings : Settings) (site : Site) (script : String) : Prop :=
  ∃ c l payload, p.listenerOn site = .ok (c, l) ∧ p.payload settings site c l = .ok payload ∧
    script = Listener.script settings payload

/-- The script of a delegator for the listeners that went to it, in the order of the resolutions. -/
def IsConsolidated (p : Page) (settings : Settings) (rs : List (Site × Resolution)) (t : Site)
    (script : String) : Prop :=
  ∃ d markupId cs, p.DelegatorAt t d ∧ p.markupId? t.component = some markupId ∧
    (delegatedTo rs t).mapM (p.contribution settings) = .ok cs ∧
    d.script? settings markupId cs = some script

def Writes (p : Page) (settings : Settings) : Visit → String → Prop
  | .enter h, script => ∃ index, (⟨h, index⟩, .direct) ∈ p.resolutions settings ∧
    p.IsOwnScript settings ⟨h, index⟩ script
  | .leave h, script => ∃ index,
    p.IsConsolidated settings (p.resolutions settings) ⟨h, index⟩ script

namespace IsTree

/-- A listener goes to the nearest component above that has a delegator for it. -/
theorem isNearest_of_delegated (ht : p.IsTree)
    (hr : (site, .delegated t) ∈ p.resolutionsAt settings v) :
    ∃ l, p.ListenerAt site l ∧ p.IsNearest (·.handles l.event = true) site.component t := by
  obtain ⟨-, l, hl, he⟩ := mem_resolutionsAt_iff.1 hr
  have htarget := resolution_eq_delegated_iff.1 he.symm
  exact ⟨l, hl, (ht.delegatorFor?_eq_some_iff.1 htarget.2.2).2⟩

theorem delegatorAt_of_delegated (ht : p.IsTree)
    (hr : (site, .delegated t) ∈ p.resolutions settings) : ∃ d, p.DelegatorAt t d := by
  obtain ⟨v, -, hr⟩ := List.mem_flatMap.1 hr
  obtain ⟨l, -, hn⟩ := ht.isNearest_of_delegated hr
  exact hn.selected.imp fun d hd => hd.1

/-- Nothing comes in for a delegator after its component was left. -/
theorem not_delegated_of_left (ht : p.IsTree) (hturn : p.InTurn (.leave t.component) v)
    (site : Site) : (site, .delegated t) ∉ p.resolutionsAt settings v := by
  intro hr
  obtain ⟨l, -, hn⟩ := ht.isNearest_of_delegated hr
  rw [(mem_resolutionsAt_iff.1 hr).1] at hturn
  exact hturn hn.above.2.2

theorem listener_of_mem_delegatedTo (ht : p.IsTree)
    (hs : site ∈ delegatedTo (p.resolutions settings) t) : ∃ l, p.ListenerAt site l := by
  obtain ⟨-, l, hl, -⟩ := ht.mem_resolutions_iff.1 (mem_delegatedTo.1 hs)
  exact ⟨l, hl⟩

theorem isConsolidated_iff (ht : p.IsTree) (hc : p.component? t.component = some c) :
    p.IsConsolidated settings (p.resolutions settings) t script ↔
      ∃ d, c.behaviors[t.index]? = some (.delegator d) ∧
        d.script? settings c.markupId (p.received settings (p.resolutions settings) t) =
          some script := by
  have hlisteners : ∀ site ∈ delegatedTo (p.resolutions settings) t, ∃ l, p.ListenerAt site l :=
    fun site hs => ht.listener_of_mem_delegatedTo hs
  have hall := ht.mapM_contribution settings hlisteners
  have hmarkup : p.markupId? t.component = some c.markupId := congrArg (Option.map _) hc
  constructor
  · rintro ⟨d, m, cs, hd, hm, hcs, hscript⟩
    rw [hmarkup, Option.some.injEq] at hm
    rw [hall, Except.ok.injEq] at hcs
    subst hm hcs
    exact ⟨d, (delegatorAt_iff hc).1 hd, hscript⟩
  · rintro ⟨d, hd, hscript⟩
    exact ⟨d, _, _, (delegatorAt_iff hc).2 hd, hmarkup, hall, hscript⟩

end IsTree

end Page

namespace Pass

variable {p : Page} {settings : Settings} {s : Pass} {h : Handle} {c : Component}
  {done more rest : List Visit} {item : HeadItem}

/-- The pass after some visits. What a delegator received waits for it until its component is left,
and the head has what was written on the way. -/
structure After (p : Page) (settings : Settings) (done : List Visit) (s : Pass) : Prop where
  settings_eq : s.settings = settings
  tidy : s.Tidy
  get_eq : ∀ t, s.contributions.get t =
    if .leave t.component ∈ done then []
    else p.received settings (done.flatMap (p.resolutionsAt settings)) t
  mem_items : ∀ item, item ∈ s.head.items ↔
    ∃ v ∈ done, ∃ script, p.Writes settings v script ∧ item = .ready script

theorem after_nil (p : Page) (settings : Settings) :
    After p settings [] { settings := settings } where
  settings_eq := rfl
  tidy := ⟨fun _ he => absurd he List.not_mem_nil, List.nodup_nil⟩
  get_eq t := (if_neg List.not_mem_nil).symm
  mem_items item := by simp

theorem get_visited_enter (ht : p.IsTree) (s : Pass) (h : Handle) (t : Site) :
    (s.visited p (.enter h)).contributions.get t = s.contributions.get t ++
      p.received s.settings (p.resolutionsAt s.settings (.enter h)) t := by
  cases hc : p.component? h with
  | none =>
      simp only [visited, Page.resolutionsAt, hc]
      exact (List.append_nil _).symm
  | some c =>
      simp only [visited, Page.resolutionsAt, hc]
      exact get_foldl_resolved ht hc (List.Subset.refl _) s

theorem mem_visited_enter (ht : p.IsTree) (hv : .enter h ∈ p.visits) :
    item ∈ (s.visited p (.enter h)).head.items ↔ item ∈ s.head.items ∨
      ∃ script, p.Writes s.settings (.enter h) script ∧ item = .ready script := by
  have hvisible := ht.enter_mem_visits_iff.1 hv
  obtain ⟨c, hc⟩ := Page.live_of_holdsUpward hvisible
  simp only [visited, hc, mem_foldl_resolved]
  apply or_congr_right
  constructor
  · rintro ⟨⟨index, l⟩, hl, hdirect, rfl⟩
    have hl := Component.mem_listeners.1 hl
    refine ⟨_, ⟨index, ?_, c, l, _, Page.listenerOn_eq_ok hc hl, ht.payload_eq_ok hc, rfl⟩, rfl⟩
    exact ht.mem_resolutions_iff.2 ⟨hvisible, l, ⟨c, hc, hl⟩, hdirect.symm⟩
  · rintro ⟨script, ⟨index, hdirect, c', l', payload, hon, hpayload, rfl⟩, rfl⟩
    obtain ⟨-, l, hl, hr⟩ := ht.mem_resolutions_iff.1 hdirect
    have hl := (Page.listenerAt_iff hc).1 hl
    rw [Page.listenerOn_eq_ok hc hl, Except.ok.injEq, Prod.mk.injEq] at hon
    obtain ⟨rfl, rfl⟩ := hon
    rw [ht.payload_eq_ok hc, Except.ok.injEq] at hpayload
    subst hpayload
    exact ⟨(index, l), Component.mem_listeners.2 hl, hr.symm, rfl⟩

theorem After.enter (ht : p.IsTree) (ha : After p settings done s)
    (hv : p.visits = done ++ .enter h :: rest) :
    After p settings (done ++ [.enter h]) (s.visited p (.enter h)) where
  settings_eq := (Rendering.apply_visit ht _ s).2.trans ha.settings_eq
  tidy := ha.tidy.visited p _
  get_eq t := by
    rw [get_visited_enter ht, ha.settings_eq, ha.get_eq, List.flatMap_append,
      List.flatMap_singleton, Page.received_append]
    by_cases hleft : .leave t.component ∈ done
    · have hturn : p.InTurn (.leave t.component) (.enter h) := by
        have hturns := hv ▸ ht.pairwise_visits
        exact (List.pairwise_append.1 hturns).2.2 _ hleft _ List.mem_cons_self
      rw [if_pos hleft, if_pos (List.mem_append_left _ hleft), List.nil_append,
        Page.received_eq_nil (ht.not_delegated_of_left hturn)]
    · have hnot : .leave t.component ∉ done ++ [.enter h] := by
        simp [hleft]
      rw [if_neg hleft, if_neg hnot]
  mem_items item := by
    have hmem : .enter h ∈ p.visits := by
      rw [hv]
      exact List.mem_append_right _ List.mem_cons_self
    rw [mem_visited_enter ht hmem, ha.mem_items, ha.settings_eq]
    simp only [List.mem_append, List.mem_singleton, or_and_right, exists_or, exists_eq_left]

/-- When its component is left, a delegator has received all that it ever will. -/
theorem After.get_eq_received (ht : p.IsTree) (ha : After p settings done s) {t : Site}
    (hv : p.visits = done ++ .leave t.component :: rest) :
    s.contributions.get t = p.received settings (p.resolutions settings) t := by
  have hturns := hv ▸ ht.pairwise_visits
  rw [List.pairwise_append, List.pairwise_cons] at hturns
  have hnew : .leave t.component ∉ done := fun hmem =>
    ht.not_inTurn_self _ (hturns.2.2 _ hmem _ List.mem_cons_self)
  have hrest : ∀ site, (site, .delegated t) ∉
      (Visit.leave t.component :: rest).flatMap (p.resolutionsAt settings) := by
    intro site hr
    obtain ⟨v, hv, hr⟩ := List.mem_flatMap.1 hr
    rcases List.mem_cons.1 hv with rfl | hv
    · cases hr
    · exact ht.not_delegated_of_left (hturns.2.1.1 v hv) site hr
  rw [ha.get_eq, if_neg hnew, Page.resolutions, hv, List.flatMap_append, Page.received_append,
    Page.received_eq_nil hrest, List.append_nil]

theorem get_visited_leave (hc : p.component? h = some c) (s : Pass) (t : Site) :
    (s.visited p (.leave h)).contributions.get t =
      if t ∈ c.delegators.map fun d => Site.mk h d.1 then [] else s.contributions.get t := by
  simp only [visited, hc, get_foldl_flushed]

theorem mem_visited_leave (ht : p.IsTree) (hc : p.component? h = some c)
    (hall : ∀ index, s.contributions.get ⟨h, index⟩ =
      p.received s.settings (p.resolutions s.settings) ⟨h, index⟩) :
    item ∈ (s.visited p (.leave h)).head.items ↔ item ∈ s.head.items ∨
      ∃ script, p.Writes s.settings (.leave h) script ∧ item = .ready script := by
  simp only [visited, hc]
  rw [mem_foldl_flushed c.pairwise_delegators]
  apply or_congr_right
  constructor
  · rintro ⟨⟨index, d⟩, hd, script, hscript, rfl⟩
    rw [hall] at hscript
    refine ⟨script, ⟨index, (ht.isConsolidated_iff hc).2 ⟨d, ?_, hscript⟩⟩, rfl⟩
    exact Component.mem_delegators.1 hd
  · rintro ⟨script, ⟨index, hscript⟩, rfl⟩
    obtain ⟨d, hd, hscript⟩ := (ht.isConsolidated_iff hc).1 hscript
    rw [← hall] at hscript
    exact ⟨(index, d), Component.mem_delegators.2 hd, script, hscript, rfl⟩

/-- What the delegators of a component do not collect was never there. -/
theorem After.get_eq_nil_of_left (ht : p.IsTree) (ha : After p settings done s) {t : Site}
    (hv : p.visits = done ++ .leave t.component :: rest) (hc : p.component? t.component = some c) :
    (s.visited p (.leave t.component)).contributions.get t = [] := by
  rw [get_visited_leave hc, ha.get_eq_received ht hv]
  split
  · rfl
  · next hnone =>
    refine Page.received_eq_nil ?_
    intro site hr
    obtain ⟨d, hd⟩ := ht.delegatorAt_of_delegated hr
    refine hnone (List.mem_map.2 ⟨(t.index, d), ?_, rfl⟩)
    exact Component.mem_delegators.2 ((Page.delegatorAt_iff hc).1 hd)

theorem After.leave (ht : p.IsTree) (ha : After p settings done s)
    (hv : p.visits = done ++ .leave h :: rest) :
    After p settings (done ++ [.leave h]) (s.visited p (.leave h)) := by
  have hvisible : p.isVisible h = true := by
    rw [← ht.leave_mem_visits_iff, hv]
    exact List.mem_append_right _ List.mem_cons_self
  obtain ⟨c, hc⟩ := Page.live_of_holdsUpward hvisible
  constructor
  · exact (Rendering.apply_visit ht _ s).2.trans ha.settings_eq
  · exact ha.tidy.visited p _
  · intro t
    by_cases hth : t.component = h
    · subst hth
      rw [if_pos (List.mem_append_right _ (List.mem_singleton.2 rfl))]
      exact ha.get_eq_nil_of_left ht hv hc
    · have hother : t ∉ c.delegators.map fun d => Site.mk h d.1 := by
        intro hmem
        obtain ⟨d, -, rfl⟩ := List.mem_map.1 hmem
        exact hth rfl
      have hleft : .leave t.component ∈ done ++ [.leave h] ↔ .leave t.component ∈ done := by
        simp [hth]
      have hnothing : p.resolutionsAt settings (.leave h) = [] := rfl
      rw [get_visited_leave hc, if_neg hother, ha.get_eq, List.flatMap_append,
        List.flatMap_singleton, hnothing, List.append_nil]
      simp only [hleft]
  · intro item
    have hall : ∀ index, s.contributions.get ⟨h, index⟩ =
        p.received s.settings (p.resolutions s.settings) ⟨h, index⟩ := by
      intro index
      rw [ha.settings_eq]
      exact ha.get_eq_received ht hv
    rw [mem_visited_leave ht hc hall, ha.mem_items, ha.settings_eq]
    simp only [List.mem_append, List.mem_singleton, or_and_right, exists_or, exists_eq_left]

/-- The pass keeps on visit by visit. -/
theorem After.foldl (ht : p.IsTree) (ha : After p settings done s)
    (hv : p.visits = done ++ (more ++ rest)) :
    After p settings (done ++ more) (more.foldl (Pass.visited · p) s) := by
  induction more generalizing done s with
  | nil =>
      rw [List.append_nil]
      exact ha
  | cons v more ih =>
      have hnext : p.visits = done ++ [v] ++ (more ++ rest) := by
        rw [hv, List.append_assoc, List.singleton_append, List.cons_append]
      rw [List.append_cons]
      cases v with
      | enter h => exact ih (ha.enter ht hv) hnext
      | leave h => exact ih (ha.leave ht hv) hnext

theorem after_front (ht : p.IsTree) (settings : Settings) (hv : p.visits = done ++ rest) :
    After p settings done (done.foldl (Pass.visited · p) { settings := settings }) :=
  (after_nil p settings).foldl ht hv

theorem after_visits (ht : p.IsTree) (settings : Settings) :
    After p settings p.visits
      (p.visits.foldl (Pass.visited · p) { settings := settings }) :=
  after_front ht settings (List.append_nil _).symm

end Pass

namespace Page

variable {p : Page} {settings : Settings} {site t t' : Site} {d e : Delegator} {script : String}
  {rs : List (Site × Resolution)} {s : Pass}

namespace IsTree

/-- What a listener is delegated to is above it, and so the pass leaves it later. -/
theorem leave_mem_visits_of_delegated (ht : p.IsTree)
    (hr : (site, .delegated t) ∈ p.resolutions settings) : .leave t.component ∈ p.visits := by
  obtain ⟨v, hv, hr⟩ := List.mem_flatMap.1 hr
  obtain ⟨l, -, hn⟩ := ht.isNearest_of_delegated hr
  rw [(mem_resolutionsAt_iff.1 hr).1, ht.enter_mem_visits_iff] at hv
  rw [ht.leave_mem_visits_iff]
  exact ht.holdsUpward_of_inSubtree hv hn.above.2.2

theorem exists_isConsolidated_iff (ht : p.IsTree) :
    (∃ script, p.IsConsolidated settings (p.resolutions settings) t script) ↔
      ∃ site, (site, .delegated t) ∈ p.resolutions settings := by
  constructor
  · rintro ⟨script, hscript⟩
    have hsome : (delegatedTo (p.resolutions settings) t) ≠ [] := by
      intro hnil
      obtain ⟨d, m, cs, -, -, hcs, hscript⟩ := hscript
      rw [hnil] at hcs
      cases hcs
      cases hscript
    obtain ⟨site, hs⟩ := List.exists_mem_of_ne_nil _ hsome
    exact ⟨site, mem_delegatedTo.1 hs⟩
  · rintro ⟨site, hr⟩
    obtain ⟨d, c, hc, hd⟩ := ht.delegatorAt_of_delegated hr
    obtain ⟨-, l, ⟨k, hk, hl⟩, -⟩ := ht.mem_resolutions_iff.1 hr
    have hx := ht.contribution_eq_ok settings hk hl
    have hreceived : p.received settings (p.resolutions settings) t ≠ [] := by
      apply List.ne_nil_of_mem
      exact List.mem_filterMap.2 ⟨site, mem_delegatedTo.2 hr, contribution?_eq_some hx⟩
    obtain ⟨script, hscript⟩ :=
      Option.isSome_iff_exists.1 (Delegator.isSome_script?_iff.2 hreceived)
    exact ⟨script, (ht.isConsolidated_iff hc).2 ⟨d, hd, hscript⟩⟩

/-- No listener passes over a delegator for its event that comes earlier on the same component. -/
theorem not_lt_of_same_event (ht : p.IsTree) (hd : p.DelegatorAt t d)
    (hr : (site, .delegated t') ∈ p.resolutions settings) (he : p.DelegatorAt t' d)
    (hsame : t.component = t'.component) : ¬ t.index < t'.index := by
  intro hlt
  obtain ⟨v, -, hr⟩ := List.mem_flatMap.1 hr
  obtain ⟨l, -, hn⟩ := ht.isNearest_of_delegated hr
  obtain ⟨e, he', hhandles⟩ := hn.selected
  rw [he'.unique he] at hhandles
  have hd' : p.DelegatorAt ⟨t'.component, t.index⟩ d := hsame ▸ hd
  exact hn.first t.index d hlt hd' hhandles

/-- Of two delegators for one event on a component only one has a script. -/
theorem eq_of_same_event (ht : p.IsTree) {script' : String}
    (hs : p.IsConsolidated settings (p.resolutions settings) t script)
    (hs' : p.IsConsolidated settings (p.resolutions settings) t' script') (hd : p.DelegatorAt t d)
    (he : p.DelegatorAt t' e) (hsame : t.component = t'.component) (hevent : d.event = e.event) :
    t = t' := by
  obtain ⟨site, hr⟩ := ht.exists_isConsolidated_iff.1 ⟨script, hs⟩
  obtain ⟨site', hr'⟩ := ht.exists_isConsolidated_iff.1 ⟨script', hs'⟩
  cases d
  cases e
  cases hevent
  have hindex : t.index = t'.index := Nat.le_antisymm
    (Nat.le_of_not_lt (ht.not_lt_of_same_event he hr hd hsame.symm))
    (Nat.le_of_not_lt (ht.not_lt_of_same_event hd hr' he hsame))
  cases t
  cases t'
  cases hsame
  cases hindex
  rfl

/-- At the end nothing waits any more. -/
theorem get_eq_nil (ht : p.IsTree) (ha : Pass.After p settings p.visits s) (t : Site) :
    s.contributions.get t = [] := by
  rw [ha.get_eq]
  split
  · rfl
  · next hleft => exact received_eq_nil fun site hr => hleft (ht.leave_mem_visits_of_delegated hr)

/-- The head has the scripts of the listeners that were bound alone and of the delegators, and no
others. -/
theorem mem_items_iff (ht : p.IsTree) (ha : Pass.After p settings p.visits s) {item : HeadItem} :
    item ∈ s.head.items ↔ ∃ script, item = .ready script ∧
      ((∃ site, (site, .direct) ∈ p.resolutions settings ∧ p.IsOwnScript settings site script) ∨
        ∃ t, p.IsConsolidated settings (p.resolutions settings) t script) := by
  rw [ha.mem_items]
  constructor
  · rintro ⟨v, hv, script, hwrites, rfl⟩
    refine ⟨script, rfl, ?_⟩
    cases v with
    | enter h =>
        obtain ⟨index, hr, hown⟩ := hwrites
        exact Or.inl ⟨⟨h, index⟩, hr, hown⟩
    | leave h =>
        obtain ⟨index, hscript⟩ := hwrites
        exact Or.inr ⟨⟨h, index⟩, hscript⟩
  · rintro ⟨script, rfl, ⟨site, hr, hown⟩ | ⟨t, hscript⟩⟩
    · refine ⟨.enter site.component, ?_, script, ⟨site.index, hr, hown⟩, rfl⟩
      exact ht.enter_mem_visits_iff.2 (ht.mem_resolutions_iff.1 hr).1
    · obtain ⟨site, hr⟩ := ht.exists_isConsolidated_iff.1 ⟨script, hscript⟩
      have hv := ht.leave_mem_visits_of_delegated hr
      exact ⟨.leave t.component, hv, script, ⟨t.index, hscript⟩, rfl⟩

end IsTree

structure IsGathered (p : Page) (settings : Settings) (head : RenderedHead) : Prop where
  delegatorAt : ∀ {site t}, (site, .delegated t) ∈ head.resolutions → ∃ d, p.DelegatorAt t d
  /-- A delegator has one script exactly if a listener went to it. -/
  script_iff : ∀ t, (∃! script, p.IsConsolidated settings head.resolutions t script ∧
    .ready script ∈ head.head.items) ↔ ∃ site, (site, .delegated t) ∈ head.resolutions
  count_eq_one : ∀ {t script}, p.IsConsolidated settings head.resolutions t script →
    head.head.items.count (.ready script) = 1
  eq_of_script : ∀ {t t' script}, p.IsConsolidated settings head.resolutions t script →
    p.IsConsolidated settings head.resolutions t' script → t = t'
  eq_of_event : ∀ {t t' d e script script'}, p.IsConsolidated settings head.resolutions t script →
    p.IsConsolidated settings head.resolutions t' script' → p.DelegatorAt t d →
    p.DelegatorAt t' e → t.component = t'.component → d.event = e.event → t = t'
  item_cases : ∀ {item}, item ∈ head.head.items → ∃ script, item = .ready script ∧
    ((∃ site, (site, .direct) ∈ head.resolutions ∧ p.IsOwnScript settings site script) ∨
      ∃ t, p.IsConsolidated settings head.resolutions t script)
  /-- What reads like the script of a delegator is the one of a delegator on that container. -/
  of_script? : ∀ {d : Delegator} {markupId cs script},
    d.script? settings markupId cs = some script → .ready script ∈ head.head.items →
    ∃ t, p.IsConsolidated settings head.resolutions t script ∧ p.DelegatorAt t d ∧
      p.markupId? t.component = some markupId

theorem IsConsolidated.unique {script' : String} (hs : p.IsConsolidated settings rs t script)
    (hs' : p.IsConsolidated settings rs t script') : script = script' := by
  obtain ⟨d, m, cs, hd, hm, hcs, hscript⟩ := hs
  obtain ⟨e, n, cs', he, hn, hcs', hscript'⟩ := hs'
  rw [hm, Option.some.injEq] at hn
  rw [hcs, Except.ok.injEq] at hcs'
  rw [← hd.unique he, ← hn, ← hcs', hscript, Option.some.injEq] at hscript'
  exact hscript'

theorem ReachableBy.isGathered {allowed : Operation → Prop} (hp : ReachableBy allowed p)
    (ha : Pass.After p settings p.visits s) :
    p.IsGathered settings ⟨s.head, p.resolutions settings⟩ := by
  have ht : p.IsTree := hp.isTree
  have hitem : ∀ {t script}, p.IsConsolidated settings (p.resolutions settings) t script →
      .ready script ∈ s.head.items :=
    fun {t script} hs => (ht.mem_items_iff ha).2 ⟨script, rfl, Or.inr ⟨t, hs⟩⟩
  constructor
  · exact ht.delegatorAt_of_delegated
  · intro t
    rw [← ht.exists_isConsolidated_iff]
    constructor
    · rintro ⟨script, ⟨hs, -⟩, -⟩
      exact ⟨script, hs⟩
    · rintro ⟨script, hs⟩
      exact ⟨script, ⟨hs, hitem hs⟩, fun script' hs' => hs'.1.unique hs⟩
  · intro t script hs
    exact List.count_eq_one_of_mem ha.tidy.nodup (hitem hs)
  · intro t t' script hs hs'
    have ⟨d, m, cs, hd, hm, _, hscript⟩ := hs
    have ⟨e, n, cs', he, hn, _, hscript'⟩ := hs'
    obtain ⟨rfl, hsame⟩ := Delegator.script?_inj hscript hscript'
    exact ht.eq_of_same_event hs hs' hd he (hp.eq_of_markupId? hm hn) hsame
  · exact ht.eq_of_same_event
  · exact (ht.mem_items_iff ha).1
  · intro d m cs script hscript hmem
    obtain ⟨_, hsame, hkind⟩ := (ht.mem_items_iff ha).1 hmem
    cases hsame
    rcases hkind with ⟨site, -, c, l, payload, -, -, hown⟩ | ⟨t, hs⟩
    · exact absurd hown (Delegator.script?_ne_listener hscript)
    · have ⟨e, n, cs', he, hn, _, hscript'⟩ := hs
      obtain ⟨rfl, hsame⟩ := Delegator.script?_inj hscript hscript'
      cases d
      cases e
      cases hsame
      exact ⟨t, hs, he, hn⟩

/-- Each listener that was delegated is in exactly one script, which its delegator wrote, and
nothing is left over when the pass is done. -/
theorem Reachable.renderHead_gathers (hp : p.Reachable) (settings : Settings) :
    ∃ rs s, (Rendering.visitAll p).apply { settings := settings } = (.ok rs, s) ∧
      p.renderHead settings = .ok ⟨s.head, rs⟩ ∧ s.contributions.isEmpty = true ∧
      p.IsGathered settings ⟨s.head, rs⟩ := by
  have ht : p.IsTree := hp.isTree
  have ha := Pass.after_visits ht settings
  exact ⟨_, _, ht.apply_visitAll settings, ht.renderHead_eq settings,
    ha.tidy.filled.isEmpty (ht.get_eq_nil ha), hp.isGathered ha⟩

theorem sample_renderHead_gathers :
    ∃ head, sample.renderHead {} = .ok head ∧ ∃ script,
      sample.IsConsolidated {} head.resolutions ⟨1, 0⟩ script ∧
        head.head.items.count (.ready script) = 1 := by
  obtain ⟨rs, s, -, hhead, -, hgathered⟩ := sample_reachable.renderHead_gathers {}
  have ht : sample.IsTree := sample_reachable.isTree
  have hfound : sample.delegatorFor? 2 "click" = some ⟨1, 0⟩ := by decide +kernel
  have hr : (⟨2, 0⟩, .delegated ⟨1, 0⟩) ∈ sample.resolutions {} := by
    refine ht.mem_resolutions_iff.2 ⟨sample_open.1, saveListener, ⟨_, rfl, rfl⟩, ?_⟩
    exact (resolution_eq_delegated_iff.2 ⟨sample_open.2, rfl, hfound⟩).symm
  have hrs : rs = sample.resolutions {} := ht.resolutions_of_renderHead hhead
  obtain ⟨script, ⟨hs, -⟩, -⟩ := (hgathered.script_iff ⟨1, 0⟩).2 ⟨_, hrs ▸ hr⟩
  exact ⟨_, hhead, script, hs, hgathered.count_eq_one hs⟩

end Page

end PageListeners
