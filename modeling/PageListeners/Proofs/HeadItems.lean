import Mathlib.Combinatorics.Enumerative.DoubleCounting
import Mathlib.Data.Finset.Sum
import PageListeners.Proofs.Consolidated
import PageListeners.Proofs.RequestAttributes

/-!
# The items of a head

A head takes an item only once. No two scripts of a pass are equal, though: a listener's own script
tells its address, as long as no hook changes the URL, and a delegator's script tells its container
and its event. So a head has one item for each listener that is bound alone and one for each
delegator that a listener went to.
-/

namespace PageListeners

def Resolution.target? : Resolution → Option Site
  | delegated t => some t
  | _ => none

theorem Resolution.target?_eq_some_iff {r : Resolution} {t : Site} :
    r.target? = some t ↔ r = .delegated t := by
  cases r <;> simp [target?]

def directSites (rs : List (Site × Resolution)) : List Site :=
  (rs.filter (·.2 = .direct)).map (·.1)

def delegationTargets (rs : List (Site × Resolution)) : Finset Site :=
  (rs.filterMap (·.2.target?)).toFinset

def headSources (rs : List (Site × Resolution)) : Finset (Site ⊕ Site) :=
  (directSites rs).toFinset.disjSum (delegationTargets rs)

section

variable {rs : List (Site × Resolution)} {site t : Site}

theorem mem_directSites : site ∈ directSites rs ↔ (site, .direct) ∈ rs := by
  simp [directSites]

theorem mem_delegationTargets :
    t ∈ delegationTargets rs ↔ ∃ site, (site, .delegated t) ∈ rs := by
  simp [delegationTargets, Resolution.target?_eq_some_iff]

theorem inl_mem_headSources : .inl site ∈ headSources rs ↔ (site, .direct) ∈ rs := by
  rw [headSources, Finset.inl_mem_disjSum, List.mem_toFinset, mem_directSites]

theorem inr_mem_headSources :
    .inr t ∈ headSources rs ↔ ∃ site, (site, .delegated t) ∈ rs := by
  rw [headSources, Finset.inr_mem_disjSum, mem_delegationTargets]

end

namespace Page

variable {p : Page} {settings : Settings} {site site' t : Site} {l : Listener}
  {script script' : String} {rs : List (Site × Resolution)} {s : Pass}

/-- Hooks may change a request as they like, but not where it goes. -/
def KeepsUrls (p : Page) : Prop :=
  ∀ site l, p.ListenerAt site l → ∀ hook ∈ l.hook, ∀ a, (hook a).url = a.url

def WrittenFor (p : Page) (settings : Settings) (rs : List (Site × Resolution)) :
    Site ⊕ Site → HeadItem → Prop
  | .inl site, item => ∃ script, item = .ready script ∧ p.IsOwnScript settings site script
  | .inr t, item => ∃ script, item = .ready script ∧ p.IsConsolidated settings rs t script

theorem KeepsUrls.url_attributes (hk : p.KeepsUrls) (hl : p.ListenerAt site l)
    (settings : Settings) (url markupId : String) :
    (l.attributes settings url markupId).url = url := by
  unfold Listener.attributes RequestAttributes.withEvent
  cases hhook : l.hook with
  | none => rfl
  | some hook => exact hk site l hl hook hhook _

theorem IsOwnScript.unique (hs : p.IsOwnScript settings site script)
    (hs' : p.IsOwnScript settings site script') : script = script' := by
  obtain ⟨c, l, payload, hon, hpayload, rfl⟩ := hs
  obtain ⟨c', l', payload', hon', hpayload', rfl⟩ := hs'
  rw [hon, Except.ok.injEq, Prod.mk.injEq] at hon'
  obtain ⟨rfl, rfl⟩ := hon'
  rw [hpayload, Except.ok.injEq] at hpayload'
  rw [hpayload']

theorem IsOwnScript.ne_consolidated (hs : p.IsOwnScript settings site script)
    (ht : p.IsConsolidated settings rs t script') : script ≠ script' := by
  obtain ⟨c, l, payload, -, -, rfl⟩ := hs
  obtain ⟨d, m, cs, -, -, -, hscript⟩ := ht
  exact (Delegator.script?_ne_listener hscript).symm

namespace IsTree

theorem exists_isOwnScript (ht : p.IsTree) (settings : Settings) (hl : p.ListenerAt site l) :
    ∃ script, p.IsOwnScript settings site script := by
  obtain ⟨c, hc, hl⟩ := hl
  exact ⟨_, c, l, _, listenerOn_eq_ok hc hl, ht.payload_eq_ok hc, rfl⟩

/-- A script that binds one listener tells the query of its callback URL. -/
theorem exists_query_of_isOwnScript (ht : p.IsTree) (hk : p.KeepsUrls)
    (hs : p.IsOwnScript settings site script) :
    ∃ path a, p.path? site.component = some path ∧
      script = Listener.script settings (RequestAttributes.json a) ∧
      a.url = settings.callbackPath ++ "?" ++
        (p.callbackParameters settings ⟨path, site.index⟩).toQuery := by
  obtain ⟨c, l, payload, hon, hpayload, rfl⟩ := hs
  obtain ⟨hc, hl⟩ := listenerAt_of_listenerOn hon
  obtain ⟨path, hpath⟩ := ht.exists_path hc
  rw [Page.payload, callbackUrl_of_path? hpath, Except.map, Except.ok.injEq] at hpayload
  subst hpayload
  exact ⟨path, _, hpath, rfl, hk.url_attributes hl settings _ c.markupId⟩

/-- Two listeners have different scripts, since they have different addresses. -/
theorem eq_of_isOwnScript (ht : p.IsTree) (hk : p.KeepsUrls)
    (hne : settings.listenerParam ≠ settings.pageParam)
    (hs : p.IsOwnScript settings site script) (hs' : p.IsOwnScript settings site' script) :
    site = site' := by
  obtain ⟨path, a, hpath, rfl, hurl⟩ := ht.exists_query_of_isOwnScript hk hs
  obtain ⟨path', b, hpath', hsame, hurl'⟩ := ht.exists_query_of_isOwnScript hk hs'
  have hpayload := Listener.payload_eq_of_script_eq hsame
  have hquery := hurl.symm.trans ((RequestAttributes.url_eq_of_json_eq hpayload).trans hurl')
  have haddress := p.eq_of_callbackParameters_eq _ hne
    (Parameters.eq_of_toQuery_eq (String.append_right_inj _ |>.1 hquery))
  rw [Address.mk.injEq] at haddress
  obtain ⟨rfl, hindex⟩ := haddress
  have hcomponent := ht.eq_of_path? hpath hpath'
  cases site
  cases site'
  cases hcomponent
  cases hindex
  rfl

theorem nodup_directSites (ht : p.IsTree) (settings : Settings) :
    (directSites (p.resolutions settings)).Nodup :=
  (ht.nodup_resolutions settings).sublist (List.filter_sublist.map _)

/-- Only one listener or delegator has an item written for it. -/
theorem eq_of_writtenFor (ht : p.IsTree) (hg : p.IsGathered settings ⟨s.head, rs⟩)
    (hk : p.KeepsUrls) (hne : settings.listenerParam ≠ settings.pageParam) {x y : Site ⊕ Site}
    {item : HeadItem} (hx : p.WrittenFor settings rs x item)
    (hy : p.WrittenFor settings rs y item) : x = y := by
  cases x with
  | inl site =>
      obtain ⟨script, rfl, hs⟩ := hx
      cases y with
      | inl site' =>
          obtain ⟨_, hsame, hs'⟩ := hy
          cases hsame
          rw [ht.eq_of_isOwnScript hk hne hs hs']
      | inr t =>
          obtain ⟨_, hsame, hs'⟩ := hy
          cases hsame
          exact absurd rfl (hs.ne_consolidated hs')
  | inr t =>
      obtain ⟨script, rfl, hs⟩ := hx
      cases y with
      | inl site' =>
          obtain ⟨_, hsame, hs'⟩ := hy
          cases hsame
          exact absurd rfl (hs'.ne_consolidated hs)
      | inr t' =>
          obtain ⟨_, hsame, hs'⟩ := hy
          cases hsame
          rw [hg.eq_of_script hs hs']

end IsTree

theorem WrittenFor.unique {x : Site ⊕ Site} {item item' : HeadItem}
    (hx : p.WrittenFor settings rs x item) (hx' : p.WrittenFor settings rs x item') :
    item = item' := by
  cases x with
  | inl site =>
      obtain ⟨script, rfl, hs⟩ := hx
      obtain ⟨script', rfl, hs'⟩ := hx'
      rw [hs.unique hs']
  | inr t =>
      obtain ⟨script, rfl, hs⟩ := hx
      obtain ⟨script', rfl, hs'⟩ := hx'
      rw [hs.unique hs']

namespace IsTree

theorem exists_item_of_source (ht : p.IsTree) (ha : Pass.After p settings p.visits s)
    {x : Site ⊕ Site} (hx : x ∈ headSources (p.resolutions settings)) :
    ∃ item, item ∈ s.head.items.toFinset ∧
      p.WrittenFor settings (p.resolutions settings) x item := by
  simp only [List.mem_toFinset, ht.mem_items_iff ha]
  cases x with
  | inl site =>
      have hr := inl_mem_headSources.1 hx
      obtain ⟨-, l, hl, -⟩ := ht.mem_resolutions_iff.1 hr
      obtain ⟨script, hs⟩ := ht.exists_isOwnScript settings hl
      exact ⟨_, ⟨script, rfl, Or.inl ⟨site, hr, hs⟩⟩, script, rfl, hs⟩
  | inr t =>
      obtain ⟨script, hs⟩ := ht.exists_isConsolidated_iff.2 (inr_mem_headSources.1 hx)
      exact ⟨_, ⟨script, rfl, Or.inr ⟨t, hs⟩⟩, script, rfl, hs⟩

theorem exists_source_of_item (ht : p.IsTree) (ha : Pass.After p settings p.visits s)
    {item : HeadItem} (hitem : item ∈ s.head.items.toFinset) :
    ∃ x, x ∈ headSources (p.resolutions settings) ∧
      p.WrittenFor settings (p.resolutions settings) x item := by
  rw [List.mem_toFinset, ht.mem_items_iff ha] at hitem
  obtain ⟨script, rfl, ⟨site, hr, hs⟩ | ⟨t, hs⟩⟩ := hitem
  · exact ⟨.inl site, inl_mem_headSources.2 hr, script, rfl, hs⟩
  · have hr := ht.exists_isConsolidated_iff.1 ⟨script, hs⟩
    exact ⟨.inr t, inr_mem_headSources.2 hr, script, rfl, hs⟩

end IsTree

/-- The items of a head and what they are written for stand one to one. -/
theorem ReachableBy.size_head {allowed : Operation → Prop} (hp : ReachableBy allowed p)
    (ha : Pass.After p settings p.visits s) (hk : p.KeepsUrls)
    (hne : settings.listenerParam ≠ settings.pageParam) :
    s.head.size = (directSites (p.resolutions settings)).length +
      (delegationTargets (p.resolutions settings)).card := by
  have ht : p.IsTree := hp.isTree
  have hg : p.IsGathered settings ⟨s.head, p.resolutions settings⟩ := hp.isGathered ha
  calc
    s.head.size = s.head.items.toFinset.card := (List.toFinset_card_of_nodup ha.tidy.nodup).symm
    _ = (headSources (p.resolutions settings)).card := by
      apply Nat.le_antisymm
      · refine Finset.card_le_card_of_forall_subsingleton' _
          (fun item hitem => ht.exists_source_of_item ha hitem) ?_
        intro x _ item hitem item' hitem'
        exact hitem.2.unique hitem'.2
      · refine Finset.card_le_card_of_forall_subsingleton _
          (fun x hx => ht.exists_item_of_source ha hx) ?_
        intro item _ x hx y hy
        exact ht.eq_of_writtenFor hg hk hne hx.2 hy.2
    _ = _ := by
      rw [headSources, Finset.card_disjSum,
        List.toFinset_card_of_nodup (ht.nodup_directSites settings)]

/-- Nothing is lost when a head takes equal items only once. Each listener that is bound alone has its
script there, no script stands for two listeners or for a listener and a delegator, and there are as
many items as there are listeners that are bound alone and delegators that a listener went to. -/
theorem Reachable.renderHead_separates (hp : p.Reachable) (hk : p.KeepsUrls)
    (hne : settings.listenerParam ≠ settings.pageParam) :
    ∃ head, p.renderHead settings = .ok head ∧
      (∀ site, (site, .direct) ∈ head.resolutions → ∃ script,
        p.IsOwnScript settings site script ∧ head.head.items.count (.ready script) = 1) ∧
      (∀ site site' script script', (site, .direct) ∈ head.resolutions →
        (site', .direct) ∈ head.resolutions → site ≠ site' → p.IsOwnScript settings site script →
        p.IsOwnScript settings site' script' → script ≠ script') ∧
      (∀ site t script script', p.IsOwnScript settings site script →
        p.IsConsolidated settings head.resolutions t script' → script ≠ script') ∧
      head.head.size =
        (directSites head.resolutions).length + (delegationTargets head.resolutions).card := by
  have ht : p.IsTree := hp.isTree
  have ha := Pass.after_visits ht settings
  refine ⟨_, ht.renderHead_eq settings, ?_, ?_, ?_, hp.size_head ha hk hne⟩
  · intro site hr
    obtain ⟨-, l, hl, -⟩ := ht.mem_resolutions_iff.1 hr
    obtain ⟨script, hs⟩ := ht.exists_isOwnScript settings hl
    have hitem := (ht.mem_items_iff ha).2 ⟨script, rfl, Or.inl ⟨site, hr, hs⟩⟩
    exact ⟨script, hs, List.count_eq_one_of_mem ha.tidy.nodup hitem⟩
  · rintro site site' script _ - - hdiffer hs hs' rfl
    exact hdiffer (ht.eq_of_isOwnScript hk hne hs hs')
  · intro site t script script' hs hs'
    exact hs.ne_consolidated hs'

def hookedListener : Listener :=
  { saveListener with hook := some fun a => { a with method := .post, markupId := "saved" } }

theorem hookedListener_isNamed : (Behavior.listener hookedListener).IsNamed :=
  ⟨"click", rfl⟩

def sampleTwins : Page :=
  [Operation.addComponent root "save", .attach 3 (.listener hookedListener) hookedListener_isNamed,
    .attach 3 (.listener hookedListener) hookedListener_isNamed].foldl Operation.run sample

theorem sampleTwins_keepsUrls : sampleTwins.KeepsUrls := by
  rintro site l ⟨c, hc, hl⟩ hook hhook a
  have hall : sampleTwins.components.map (·.2.behaviors) = [[], [.delegator ⟨"click"⟩],
      [.listener saveListener], [.listener hookedListener, .listener hookedListener]] := rfl
  have hmem := List.mem_map_of_mem (f := fun e => e.2.behaviors) (mem_components.2 hc)
  have hb := List.mem_of_getElem? hl
  rw [hall] at hmem
  simp only [List.mem_cons, List.not_mem_nil, or_false] at hmem
  rcases hmem with hnone | hform | hsave | htwice
  · rw [hnone] at hb
    cases hb
  · rw [hform, List.mem_singleton] at hb
    cases hb
  · rw [hsave, List.mem_singleton] at hb
    cases hb
    cases hhook
  · simp only [htwice, List.mem_cons, List.not_mem_nil, or_false, or_self] at hb
    cases hb
    cases hhook
    rfl

theorem sampleTwins_separates :
    ∃ head, sampleTwins.renderHead {} = .ok head ∧
      head.resolutions =
        [(⟨2, 0⟩, .delegated ⟨1, 0⟩), (⟨3, 0⟩, .direct), (⟨3, 1⟩, .direct)] ∧
      head.head.size = 3 := by
  have hp : sampleTwins.Reachable := ReachableBy.foldl sample_reachable fun _ _ => trivial
  have hne : ({} : Settings).listenerParam ≠ ({} : Settings).pageParam := by decide
  obtain ⟨head, hhead, -, -, -, hsize⟩ := hp.renderHead_separates sampleTwins_keepsUrls hne
  have hrs : head.resolutions =
      [(⟨2, 0⟩, .delegated ⟨1, 0⟩), (⟨3, 0⟩, .direct), (⟨3, 1⟩, .direct)] := by
    rw [hp.isTree.resolutions_of_renderHead hhead]
    decide +kernel
  refine ⟨head, hhead, hrs, ?_⟩
  rw [hsize, hrs]
  rfl

end Page

end PageListeners
