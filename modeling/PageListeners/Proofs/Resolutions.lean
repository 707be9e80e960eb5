import PageListeners.Proofs.Page.Reachable
import PageListeners.Proofs.Pass
import PageListeners.Proofs.Registry
import PageListeners.Proofs.Visits

/-!
# Where the listeners go

The pass resolves the listeners on the components that are visible up to the page, each of them once
and in depth-first order. Where a listener goes depends on what is above its component.
-/

namespace PageListeners

namespace Page

variable {p : Page} {settings : Settings} {h : Handle} {c : Component} {site t : Site}
  {l k : Listener}

def ListenerAt (p : Page) (site : Site) (l : Listener) : Prop :=
  ∃ c, p.component? site.component = some c ∧ c.behaviors[site.index]? = some (.listener l)

/-- Depth-first order of the components, and on one component the order of the indices. -/
def SiteBefore (p : Page) (s t : Site) : Prop :=
  p.ComesBefore s.component t.component ∨ s.component = t.component ∧ s.index < t.index

theorem listenerAt_iff (hc : p.component? h = some c) {index : Nat} :
    p.ListenerAt ⟨h, index⟩ l ↔ c.behaviors[index]? = some (.listener l) := by
  constructor
  · rintro ⟨c', hc', hl⟩
    rw [hc] at hc'
    cases hc'
    exact hl
  · intro hl
    exact ⟨c, hc, hl⟩

theorem ListenerAt.unique (hl : p.ListenerAt site l) (hk : p.ListenerAt site k) : l = k := by
  obtain ⟨c, hc, hl⟩ := hl
  rw [listenerAt_iff hc, hl] at hk
  cases hk
  rfl

theorem listenerAt_of_listenerOn (hon : p.listenerOn site = .ok (c, l)) :
    p.component? site.component = some c ∧ p.ListenerAt site l := by
  unfold listenerOn at hon
  split at hon
  · cases hon
  · next d hd =>
    split at hon
    · cases hon
    · next b hb =>
      cases b with
      | delegator e => cases hon
      | listener k =>
          cases hon
          exact ⟨hd, c, hd, hb⟩

theorem mem_resolutionsAt_iff {v : Visit} {r : Resolution} :
    (site, r) ∈ p.resolutionsAt settings v ↔ v = .enter site.component ∧
      ∃ l, p.ListenerAt site l ∧ r = p.resolution settings site.component l := by
  constructor
  · intro hr
    cases v with
    | leave h => cases hr
    | enter h =>
        cases hc : p.component? h with
        | none => simp [resolutionsAt, hc] at hr
        | some c =>
            simp only [resolutionsAt, hc, List.mem_map, Prod.mk.injEq] at hr
            obtain ⟨⟨index, l⟩, hl, rfl, rfl⟩ := hr
            exact ⟨rfl, l, (listenerAt_iff hc).2 (Component.mem_listeners.1 hl), rfl⟩
  · rintro ⟨rfl, l, ⟨c, hc, hl⟩, rfl⟩
    simp only [resolutionsAt, hc, List.mem_map]
    exact ⟨(site.index, l), Component.mem_listeners.2 hl, rfl⟩

def sitesAt (p : Page) : Visit → List Site
  | .enter h =>
    match p.component? h with
    | none => []
    | some c => c.listeners.map fun l => ⟨h, l.1⟩
  | .leave _ => []

theorem sitesAt_congr {q : Page}
    (hpq : ∀ h, (q.component? h).map Component.listeners =
      (p.component? h).map Component.listeners) : q.sitesAt = p.sitesAt := by
  funext v
  cases v with
  | leave h => rfl
  | enter h =>
      have hsites : ∀ r : Page, r.sitesAt (.enter h) =
          (((r.component? h).map Component.listeners).getD []).map fun l => ⟨h, l.1⟩ := by
        intro r
        rw [sitesAt]
        cases r.component? h <;> rfl
      rw [hsites, hsites, hpq]

/-- Which listeners are resolved and in which order does not depend on the settings. -/
theorem map_fst_resolutions (p : Page) (settings : Settings) :
    (p.resolutions settings).map (·.1) = p.visits.flatMap p.sitesAt := by
  rw [resolutions, List.map_flatMap]
  congr 1
  funext v
  cases v with
  | leave h => rfl
  | enter h =>
      rw [resolutionsAt, sitesAt]
      cases p.component? h with
      | none => rfl
      | some c => simp [Function.comp_def]

theorem resolution_eq_suppressed_iff :
    p.resolution settings h l = .suppressed ↔ p.isEnabled h = false := by
  unfold resolution
  cases p.isEnabled h with
  | false => simp
  | true => cases p.delegationTarget? settings h l.event <;> simp

theorem resolution_eq_delegated_iff :
    p.resolution settings h l = .delegated t ↔
      p.isEnabled h = true ∧ settings.delegationEnabled = true ∧
        p.delegatorFor? h l.event = some t := by
  unfold resolution delegationTarget?
  cases p.isEnabled h with
  | false => simp
  | true =>
      cases settings.delegationEnabled with
      | false => simp
      | true => cases p.delegatorFor? h l.event <;> simp

theorem resolution_eq_direct_iff :
    p.resolution settings h l = .direct ↔
      p.isEnabled h = true ∧
        ¬ (settings.delegationEnabled = true ∧ ∃ t, p.delegatorFor? h l.event = some t) := by
  unfold resolution delegationTarget?
  cases p.isEnabled h with
  | false => simp
  | true =>
      cases settings.delegationEnabled with
      | false => simp
      | true => cases p.delegatorFor? h l.event <;> simp

/-- Where a listener goes is told by the way up from its component and by the registry. -/
theorem resolution_eq_of_lineage? {q : Page} (hline : q.lineage? h = p.lineage? h)
    (hd : q.delegations = p.delegations) (settings : Settings) (l : Listener) :
    q.resolution settings h l = p.resolution settings h l := by
  have henabled : q.isEnabled h = p.isEnabled h := by
    rw [isEnabled, isEnabled, holdsUpward, holdsUpward, hline]
  have hdelegator : q.delegatorFor? h l.event = p.delegatorFor? h l.event := by
    rw [delegatorFor?, delegatorFor?, ancestors, ancestors, hline, hd]
  rw [resolution, resolution, henabled, delegationTarget?, delegationTarget?, hdelegator]

/-- The pass resolves the listeners by the components and the registry alone. -/
theorem resolutions_congr {q : Page} (hs : q.slots = p.slots)
    (hd : q.delegations = p.delegations) (settings : Settings) :
    q.resolutions settings = p.resolutions settings := by
  have hc : ∀ h, q.component? h = p.component? h := component?_congr hs
  have hresolution : ∀ h l, q.resolution settings h l = p.resolution settings h l :=
    fun h l => resolution_eq_of_lineage? (lineage?_eq_of_component? hc h) hd settings l
  have hat : ∀ v, q.resolutionsAt settings v = p.resolutionsAt settings v := by
    intro v
    cases v with
    | enter h => simp only [resolutionsAt, hc, hresolution]
    | leave h => rfl
  have hvisits : q.visits = p.visits :=
    visits_congr (congrArg Array.size hs) fun h => by rw [hc]
  rw [resolutions, resolutions, hvisits, funext hat]

namespace IsTree

theorem not_siteBefore_self (ht : p.IsTree) : ¬ p.SiteBefore site site := by
  rintro (hbefore | ⟨-, hlt⟩)
  · exact ht.not_comesBefore_self hbefore
  · exact Nat.lt_irrefl _ hlt

/-- What the pass resolves are the listeners on visible components. -/
theorem mem_resolutions_iff (ht : p.IsTree) {r : Resolution} :
    (site, r) ∈ p.resolutions settings ↔
      p.isVisible site.component = true ∧
        ∃ l, p.ListenerAt site l ∧ r = p.resolution settings site.component l := by
  simp only [resolutions, List.mem_flatMap, mem_resolutionsAt_iff, ← ht.enter_mem_visits_iff]
  constructor
  · rintro ⟨v, hv, rfl, hl⟩
    exact ⟨hv, hl⟩
  · rintro ⟨hv, hl⟩
    exact ⟨_, hv, rfl, hl⟩

theorem eq_of_mem_resolutions (ht : p.IsTree) {r r' : Resolution}
    (hr : (site, r) ∈ p.resolutions settings) (hr' : (site, r') ∈ p.resolutions settings) :
    r = r' := by
  obtain ⟨-, l, hl, rfl⟩ := ht.mem_resolutions_iff.1 hr
  obtain ⟨-, k, hk, rfl⟩ := ht.mem_resolutions_iff.1 hr'
  rw [hl.unique hk]

theorem resolution?_eq_some_iff (ht : p.IsTree) {head : Head} {r : Resolution} :
    (RenderedHead.mk head (p.resolutions settings)).resolution? site = some r ↔
      p.isVisible site.component = true ∧
        ∃ l, p.ListenerAt site l ∧ r = p.resolution settings site.component l := by
  rw [RenderedHead.resolution?, lookup_eq_some_iff_mem, ht.mem_resolutions_iff]
  intro site r r' hr hr'
  exact ht.eq_of_mem_resolutions hr hr'

theorem pairwise_resolutions (ht : p.IsTree) (settings : Settings) :
    ((p.resolutions settings).map (·.1)).Pairwise p.SiteBefore := by
  rw [resolutions, List.pairwise_map, List.pairwise_flatMap]
  constructor
  · intro v _
    cases v with
    | leave h => exact List.Pairwise.nil
    | enter h =>
        rw [resolutionsAt]
        split
        · exact List.Pairwise.nil
        · next c _ =>
          rw [List.pairwise_map]
          exact c.pairwise_listeners.imp fun hlt => Or.inr ⟨rfl, hlt⟩
  · refine ht.pairwise_visits.imp ?_
    intro v w hturn x hx y hy
    rw [(mem_resolutionsAt_iff.1 hx).1, (mem_resolutionsAt_iff.1 hy).1] at hturn
    exact Or.inl hturn

theorem nodup_of_pairwise_siteBefore (ht : p.IsTree) {sites : List Site}
    (hsorted : sites.Pairwise p.SiteBefore) : sites.Nodup := by
  refine hsorted.imp ?_
  rintro site _ hbefore rfl
  exact ht.not_siteBefore_self hbefore

theorem nodup_resolutions (ht : p.IsTree) (settings : Settings) :
    ((p.resolutions settings).map (·.1)).Nodup :=
  ht.nodup_of_pairwise_siteBefore (ht.pairwise_resolutions settings)

end IsTree

structure IsResolved (p : Page) (settings : Settings) (head : RenderedHead) : Prop where
  inOrder : (head.resolutions.map (·.1)).Pairwise p.SiteBefore
  once : (head.resolutions.map (·.1)).Nodup
  mem_iff : ∀ site, site ∈ head.resolutions.map (·.1) ↔
    p.isVisible site.component = true ∧ ∃ l, p.ListenerAt site l
  resolution?_iff : ∀ site r, head.resolution? site = some r ↔ (site, r) ∈ head.resolutions
  suppressed_iff : ∀ {site r l}, (site, r) ∈ head.resolutions → p.ListenerAt site l →
    (r = .suppressed ↔ p.isEnabled site.component = false)
  delegated_iff : ∀ {site r l}, (site, r) ∈ head.resolutions → p.ListenerAt site l →
    ∀ t, r = .delegated t ↔ p.isEnabled site.component = true ∧
      settings.delegationEnabled = true ∧ p.delegatorFor? site.component l.event = some t
  direct_iff : ∀ {site r l}, (site, r) ∈ head.resolutions → p.ListenerAt site l →
    (r = .direct ↔ p.isEnabled site.component = true ∧
      ¬ (settings.delegationEnabled = true ∧ ∃ t, p.delegatorFor? site.component l.event = some t))

/-- The listeners on the components that are visible up to the page are resolved, once each and in
depth-first order, and the head knows of no other. -/
theorem Reachable.renderHead_resolves (hp : p.Reachable) (settings : Settings) :
    ∃ head, p.renderHead settings = .ok head ∧ p.IsResolved settings head ∧
      ∀ site, (head.resolution? site).isSome = true ↔
        p.isVisible site.component = true ∧ ∃ l, p.ListenerAt site l := by
  have ht : p.IsTree := hp.isTree
  have hexact : ∀ {site r l}, (site, r) ∈ p.resolutions settings →
      p.ListenerAt site l → r = p.resolution settings site.component l := by
    intro site r l hr hl
    obtain ⟨-, k, hk, rfl⟩ := ht.mem_resolutions_iff.1 hr
    rw [hl.unique hk]
  refine ⟨_, ht.renderHead_eq settings, ?_, ?_⟩
  · constructor
    · exact ht.pairwise_resolutions settings
    · exact ht.nodup_resolutions settings
    · intro site
      simp only [List.mem_map, Prod.exists, exists_and_right, exists_eq_right]
      constructor
      · rintro ⟨r, hr⟩
        obtain ⟨hvisible, l, hl, -⟩ := ht.mem_resolutions_iff.1 hr
        exact ⟨hvisible, l, hl⟩
      · rintro ⟨hvisible, l, hl⟩
        exact ⟨_, ht.mem_resolutions_iff.2 ⟨hvisible, l, hl, rfl⟩⟩
    · intro site r
      rw [ht.resolution?_eq_some_iff, ht.mem_resolutions_iff]
    · intro site r l hr hl
      rw [hexact hr hl, resolution_eq_suppressed_iff]
    · intro site r l hr hl t
      rw [hexact hr hl, resolution_eq_delegated_iff]
    · intro site r l hr hl
      rw [hexact hr hl, resolution_eq_direct_iff]
  · intro site
    simp only [Option.isSome_iff_exists, ht.resolution?_eq_some_iff]
    constructor
    · rintro ⟨r, hvisible, l, hl, -⟩
      exact ⟨hvisible, l, hl⟩
    · rintro ⟨hvisible, l, hl⟩
      exact ⟨_, hvisible, l, hl, rfl⟩

theorem sample_renderHead_resolves :
    ∃ head, sample.renderHead {} = .ok head ∧
      head.resolution? ⟨2, 0⟩ = some (.delegated ⟨1, 0⟩) := by
  obtain ⟨head, hhead, hresolved, htotal⟩ := sample_reachable.renderHead_resolves {}
  have hl : sample.ListenerAt ⟨2, 0⟩ saveListener := ⟨_, rfl, rfl⟩
  obtain ⟨r, hr⟩ := Option.isSome_iff_exists.1 ((htotal ⟨2, 0⟩).2 ⟨sample_open.1, _, hl⟩)
  have hfound : sample.delegatorFor? 2 "click" = some ⟨1, 0⟩ := by decide +kernel
  have htarget : r = .delegated ⟨1, 0⟩ :=
    (hresolved.delegated_iff ((hresolved.resolution?_iff _ _).1 hr) hl _).2
      ⟨sample_open.2, rfl, hfound⟩
  exact ⟨head, hhead, htarget ▸ hr⟩

end Page

end PageListeners
