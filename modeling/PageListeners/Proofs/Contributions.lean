import Mathlib.Data.List.Nodup
import PageListeners.Proofs.Delegation
import PageListeners.Proofs.Resolutions

/-!
# Contributions

A delegator receives one contribution for each listener that is resolved to it. They all come from
below its component, so they are there when the pass leaves it, and none comes later.
-/

namespace PageListeners

def delegatedTo (rs : List (Site × Resolution)) (t : Site) : List Site :=
  (rs.filter (·.2 = .delegated t)).map (·.1)

section

variable {rs : List (Site × Resolution)} {site t : Site}

theorem mem_delegatedTo : site ∈ delegatedTo rs t ↔ (site, .delegated t) ∈ rs := by
  simp [delegatedTo]

theorem delegatedTo_append (rs rs' : List (Site × Resolution)) (t : Site) :
    delegatedTo (rs ++ rs') t = delegatedTo rs t ++ delegatedTo rs' t := by
  rw [delegatedTo, List.filter_append, List.map_append]
  rfl

theorem delegatedTo_eq_nil_iff : delegatedTo rs t = [] ↔ ∀ site, (site, .delegated t) ∉ rs := by
  simp only [List.eq_nil_iff_forall_not_mem, mem_delegatedTo]

end

namespace Contributions

variable {cs : Contributions}

def Filled (cs : Contributions) : Prop :=
  ∀ e ∈ cs.entries, e.2 ≠ []

theorem Filled.erase (hf : cs.Filled) (t : Site) : (cs.erase t).Filled :=
  fun e he => hf e (List.mem_filter.1 he).1

theorem Filled.add (hf : cs.Filled) (t : Site) (c : Contribution) : (cs.add t c).Filled := by
  intro e he
  rcases List.mem_cons.1 he with rfl | he
  · simp
  · exact hf.erase t e he

theorem Filled.isEmpty (hf : cs.Filled) (hnone : ∀ t, cs.get t = []) : cs.isEmpty = true := by
  obtain ⟨entries⟩ := cs
  cases entries with
  | nil => rfl
  | cons e es =>
      obtain ⟨t, xs⟩ := e
      have hget : (Contributions.mk ((t, xs) :: es)).get t = xs := by simp [get]
      exact absurd (hget.symm.trans (hnone t)) (hf (t, xs) List.mem_cons_self)

end Contributions

namespace Page

variable {p : Page} {settings : Settings} {rs : List (Site × Resolution)} {h : Handle}
  {site t : Site} {c : Component} {l : Listener}

def contribution (p : Page) (settings : Settings) (site : Site) : Except Error Contribution := do
  let (c, l) ← p.listenerOn site
  let payload ← p.payload settings site c l
  return ⟨c.markupId, payload⟩

def contribution? (p : Page) (settings : Settings) (site : Site) : Option Contribution :=
  (p.contribution settings site).toOption

def received (p : Page) (settings : Settings) (rs : List (Site × Resolution)) (t : Site) :
    List Contribution :=
  (delegatedTo rs t).filterMap (p.contribution? settings)

theorem contribution?_eq_some {x : Contribution} (hx : p.contribution settings site = .ok x) :
    p.contribution? settings site = some x := by
  rw [contribution?, hx]
  rfl

theorem received_append (p : Page) (settings : Settings) (rs rs' : List (Site × Resolution))
    (t : Site) :
    p.received settings (rs ++ rs') t = p.received settings rs t ++ p.received settings rs' t := by
  rw [received, delegatedTo_append, List.filterMap_append]
  rfl

theorem received_eq_nil (hnone : ∀ site, (site, .delegated t) ∉ rs) :
    p.received settings rs t = [] := by
  rw [received, delegatedTo_eq_nil_iff.2 hnone]
  rfl

namespace IsTree

theorem contribution_eq_ok (ht : p.IsTree) (settings : Settings)
    (hc : p.component? site.component = some c)
    (hl : c.behaviors[site.index]? = some (.listener l)) :
    p.contribution settings site = .ok ⟨c.markupId, p.payloadText settings site c l⟩ := by
  simp only [contribution, listenerOn_eq_ok hc hl, ht.payload_eq_ok hc, bind, Except.bind, pure,
    Except.pure]

/-- Every listener that was delegated hands something over. -/
theorem mapM_contribution (ht : p.IsTree) (settings : Settings) {sites : List Site}
    (hsites : ∀ site ∈ sites, ∃ l, p.ListenerAt site l) :
    sites.mapM (p.contribution settings) =
      .ok (sites.filterMap (p.contribution? settings)) := by
  induction sites with
  | nil => rfl
  | cons site sites ih =>
      obtain ⟨l, c, hc, hl⟩ := hsites site List.mem_cons_self
      have hx := ht.contribution_eq_ok settings hc hl
      rw [List.mapM_cons, hx, ih fun s hs => hsites s (List.mem_cons_of_mem site hs),
        List.filterMap_cons_some (contribution?_eq_some hx)]
      rfl

end IsTree

end Page

namespace Head

variable {head : Head} {item item' : HeadItem}

theorem mem_add : item ∈ (head.add item').items ↔ item ∈ head.items ∨ item = item' := by
  rw [items_add]
  split
  · next hmem =>
    constructor
    · exact Or.inl
    · rintro (hitem | rfl)
      · exact hitem
      · exact hmem
  · simp

theorem nodup_add (hn : head.items.Nodup) : (head.add item).items.Nodup := by
  rw [items_add]
  split
  · exact hn
  · next hnew => exact List.concat_eq_append ▸ hn.concat hnew

end Head

namespace Pass

variable {p : Page} {s : Pass} {h : Handle} {site t : Site} {c : Component} {l : Listener}
  {d : Delegator} {item : HeadItem}

theorem get_resolved (ht : p.IsTree) (hc : p.component? site.component = some c)
    (hl : c.behaviors[site.index]? = some (.listener l)) :
    (s.resolved p site c l).contributions.get t = s.contributions.get t ++
      p.received s.settings [(site, p.resolution s.settings site.component l)] t := by
  have hx := ht.contribution_eq_ok s.settings hc hl
  unfold resolved
  cases p.resolution s.settings site.component l with
  | suppressed => simp [Page.received, delegatedTo]
  | direct => simp [Page.received, delegatedTo]
  | delegated target =>
      simp only [Contributions.get_add]
      by_cases htarget : t = target
      · subst htarget
        simp [Page.received, delegatedTo, Page.contribution?_eq_some hx]
      · have hne : ¬ target = t := fun he => htarget he.symm
        simp [Page.received, delegatedTo, htarget, hne]

theorem mem_resolved : item ∈ (s.resolved p site c l).head.items ↔ item ∈ s.head.items ∨
    p.resolution s.settings site.component l = .direct ∧
      item = .ready (Listener.script s.settings (p.payloadText s.settings site c l)) := by
  unfold resolved
  cases p.resolution s.settings site.component l with
  | suppressed => simp
  | delegated target => simp
  | direct => simp [Head.mem_add]

theorem get_flushed : (s.flushed c site d).contributions.get t =
    if t = site then [] else s.contributions.get t := by
  unfold flushed
  rw [← Contributions.get_erase]
  cases d.script? s.settings c.markupId (s.contributions.get site) <;> rfl

theorem mem_flushed : item ∈ (s.flushed c site d).head.items ↔ item ∈ s.head.items ∨
    ∃ script, d.script? s.settings c.markupId (s.contributions.get site) = some script ∧
      item = .ready script := by
  unfold flushed
  cases d.script? s.settings c.markupId (s.contributions.get site) with
  | none => simp
  | some script => simp [Head.mem_add]

/-- Each item is there once, and nobody waits for nothing. -/
structure Tidy (s : Pass) : Prop where
  filled : s.contributions.Filled
  nodup : s.head.items.Nodup

theorem Tidy.resolved (hs : s.Tidy) (p : Page) (site : Site) (c : Component) (l : Listener) :
    (s.resolved p site c l).Tidy := by
  unfold Pass.resolved
  cases p.resolution s.settings site.component l with
  | suppressed => exact hs
  | delegated target => exact ⟨hs.filled.add target _, hs.nodup⟩
  | direct => exact ⟨hs.filled, Head.nodup_add hs.nodup⟩

theorem Tidy.flushed (hs : s.Tidy) (c : Component) (site : Site) (d : Delegator) :
    (s.flushed c site d).Tidy := by
  unfold Pass.flushed
  cases d.script? s.settings c.markupId (s.contributions.get site) with
  | none => exact ⟨hs.filled.erase site, hs.nodup⟩
  | some script => exact ⟨hs.filled.erase site, Head.nodup_add hs.nodup⟩

theorem Tidy.visited (hs : s.Tidy) (p : Page) (v : Visit) : (s.visited p v).Tidy := by
  cases v with
  | enter h =>
      rw [Pass.visited]
      split
      · exact hs
      · next c _ => exact List.foldlRecOn _ _ hs fun s hs l _ => hs.resolved p ⟨h, l.1⟩ c l.2
  | leave h =>
      rw [Pass.visited]
      split
      · exact hs
      · next c _ => exact List.foldlRecOn _ _ hs fun s hs d _ => hs.flushed c ⟨h, d.1⟩ d.2

theorem get_foldl_resolved (ht : p.IsTree) (hc : p.component? h = some c)
    {ls : List (Nat × Listener)} (hls : ls ⊆ c.listeners) (s : Pass) :
    (ls.foldl (fun s l => s.resolved p ⟨h, l.1⟩ c l.2) s).contributions.get t =
      s.contributions.get t ++
        p.received s.settings (ls.map fun l => (⟨h, l.1⟩, p.resolution s.settings h l.2)) t := by
  induction ls generalizing s with
  | nil => exact (List.append_nil _).symm
  | cons l ls ih =>
      obtain ⟨hl, hls⟩ := List.cons_subset.1 hls
      rw [List.foldl_cons, ih hls, settings_resolved,
        get_resolved ht hc (Component.mem_listeners.1 hl), List.append_assoc,
        ← Page.received_append]
      rfl

theorem mem_foldl_resolved {ls : List (Nat × Listener)} (s : Pass) :
    item ∈ (ls.foldl (fun s l => s.resolved p ⟨h, l.1⟩ c l.2) s).head.items ↔
      item ∈ s.head.items ∨ ∃ l ∈ ls, p.resolution s.settings h l.2 = .direct ∧
        item = .ready (Listener.script s.settings (p.payloadText s.settings ⟨h, l.1⟩ c l.2)) := by
  induction ls generalizing s with
  | nil => simp
  | cons l ls ih =>
      rw [List.foldl_cons, ih, settings_resolved, mem_resolved, List.exists_mem_cons_iff, or_assoc]

theorem get_foldl_flushed {ds : List (Nat × Delegator)} (s : Pass) :
    (ds.foldl (fun s d => s.flushed c ⟨h, d.1⟩ d.2) s).contributions.get t =
      if t ∈ ds.map fun d => Site.mk h d.1 then [] else s.contributions.get t := by
  induction ds generalizing s with
  | nil => rfl
  | cons d ds ih =>
      rw [List.foldl_cons, ih, get_flushed, List.map_cons]
      by_cases htd : t = ⟨h, d.1⟩
      · rw [if_pos htd, if_pos (List.mem_cons.2 (Or.inl htd)), ite_self]
      · simp only [htd, if_false, List.mem_cons, false_or]

/-- Each delegator writes for what was there before any of them did. -/
theorem mem_foldl_flushed {ds : List (Nat × Delegator)} (hds : ds.Pairwise (·.1 < ·.1)) (s : Pass) :
    item ∈ (ds.foldl (fun s d => s.flushed c ⟨h, d.1⟩ d.2) s).head.items ↔
      item ∈ s.head.items ∨ ∃ d ∈ ds, ∃ script,
        d.2.script? s.settings c.markupId (s.contributions.get ⟨h, d.1⟩) = some script ∧
          item = .ready script := by
  induction ds generalizing s with
  | nil => simp
  | cons d ds ih =>
      obtain ⟨hfirst, hds⟩ := List.pairwise_cons.1 hds
      rw [List.foldl_cons, ih hds, settings_flushed, mem_flushed, List.exists_mem_cons_iff,
        or_assoc]
      apply or_congr_right
      apply or_congr_right
      apply exists_congr
      intro e
      apply and_congr_right
      intro he
      have hne : Site.mk h e.1 ≠ ⟨h, d.1⟩ := fun hsame =>
        Nat.ne_of_gt (hfirst e he) (congrArg Site.index hsame)
      rw [get_flushed, if_neg hne]

end Pass

end PageListeners
