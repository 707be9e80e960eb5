import PageListeners.Proofs.HeadItems

/-!
# What the scripts of a head bind

A listener that is not suppressed is bound with its markup id and its payload. Either it has a
script of its own, which carries the payload, or both are a member of the script of its delegator.
Without delegation each of these listeners has its own script, with the same payload, and there are
no other scripts.
-/

namespace PageListeners

section

variable {α β : Type}

theorem exists_pairs {R : α → β → Prop} {xs : List α} (hR : ∀ x ∈ xs, ∃ y, R x y) :
    ∃ pairs : List (α × β), pairs.map (·.1) = xs ∧ ∀ b ∈ pairs, R b.1 b.2 := by
  induction xs with
  | nil => exact ⟨[], rfl, fun _ hb => absurd hb List.not_mem_nil⟩
  | cons x xs ih =>
      obtain ⟨y, hy⟩ := hR x List.mem_cons_self
      obtain ⟨pairs, rfl, hall⟩ := ih fun z hz => hR z (List.mem_cons_of_mem x hz)
      exact ⟨(x, y) :: pairs, rfl, List.forall_mem_cons.2 ⟨hy, hall⟩⟩

theorem map_snd_eq_filterMap {f : α → Option β} {bindings : List (α × β)}
    (hf : ∀ b ∈ bindings, f b.1 = some b.2) :
    bindings.map (·.2) = (bindings.map (·.1)).filterMap f := by
  induction bindings with
  | nil => rfl
  | cons b bindings ih =>
      obtain ⟨hb, hall⟩ := List.forall_mem_cons.1 hf
      rw [List.map_cons, List.map_cons, List.filterMap_cons_some hb, ih hall]

end

namespace Page

variable {p : Page} {settings : Settings} {site t : Site} {script : String}
  {bindings : List (Site × Contribution)}

/-- The script of a delegator that has as members what `bindings` say of the listeners that went to
it. -/
def Gathers (p : Page) (settings : Settings) (rs : List (Site × Resolution))
    (bindings : List (Site × Contribution)) (t : Site) (script : String) : Prop :=
  ∃ d markupId, p.DelegatorAt t d ∧ p.markupId? t.component = some markupId ∧
    d.script? settings markupId ((bindings.filter (·.1 ∈ delegatedTo rs t)).map (·.2)) = some script

/-- The listeners that are not suppressed, in the order of the resolutions, each with what it hands
over. -/
structure AreBindings (p : Page) (settings : Settings) (rs : List (Site × Resolution))
    (bindings : List (Site × Contribution)) : Prop where
  sites_eq : bindings.map (·.1) = (rs.filter (·.2 ≠ .suppressed)).map (·.1)
  handed : ∀ b ∈ bindings, p.contribution settings b.1 = .ok b.2

structure Binds (p : Page) (settings : Settings) (head : RenderedHead)
    (bindings : List (Site × Contribution)) : Prop extends
    AreBindings p settings head.resolutions bindings where
  own : ∀ b ∈ bindings, (b.1, .direct) ∈ head.resolutions →
    .ready (Listener.script settings b.2.payload) ∈ head.head.items
  gathered : ∀ site t, (site, .delegated t) ∈ head.resolutions →
    ∃ script, p.Gathers settings head.resolutions bindings t script ∧
      .ready script ∈ head.head.items
  nothing_else : ∀ item ∈ head.head.items,
    (∃ b ∈ bindings, (b.1, .direct) ∈ head.resolutions ∧
      item = .ready (Listener.script settings b.2.payload)) ∨
    ∃ t script, p.Gathers settings head.resolutions bindings t script ∧ item = .ready script

namespace IsTree

/-- Which listeners are bound is decided by the flags of their components alone. -/
theorem map_fst_filter_resolutions (ht : p.IsTree) (settings : Settings) :
    ((p.resolutions settings).filter (·.2 ≠ .suppressed)).map (·.1) =
      (p.visits.flatMap p.sitesAt).filter (p.isEnabled ·.component) := by
  rw [← map_fst_resolutions p settings, List.filter_map]
  congr 1
  apply List.filter_congr
  rintro ⟨site, r⟩ hr
  obtain ⟨-, l, -, rfl⟩ := ht.mem_resolutions_iff.1 hr
  simp [resolution_eq_suppressed_iff]

theorem filter_mem_delegatedTo (ht : p.IsTree) (settings : Settings) (t : Site) :
    (((p.resolutions settings).filter (·.2 ≠ .suppressed)).map (·.1)).filter
        (· ∈ delegatedTo (p.resolutions settings) t) =
      delegatedTo (p.resolutions settings) t := by
  rw [List.filter_map, List.filter_filter]
  change _ = ((p.resolutions settings).filter (·.2 = .delegated t)).map (·.1)
  congr 1
  apply List.filter_congr
  rintro ⟨site, r⟩ hr
  have hmem : site ∈ delegatedTo (p.resolutions settings) t ↔ r = .delegated t := by
    rw [mem_delegatedTo]
    constructor
    · exact ht.eq_of_mem_resolutions hr
    · rintro rfl
      exact hr
  by_cases hdelegated : r = .delegated t
  · simp [hmem, hdelegated]
  · simp [hmem, hdelegated]

theorem mapM_delegatedTo (ht : p.IsTree)
    (hb : p.AreBindings settings (p.resolutions settings) bindings) (t : Site) :
    (delegatedTo (p.resolutions settings) t).mapM (p.contribution settings) =
      .ok ((bindings.filter (·.1 ∈ delegatedTo (p.resolutions settings) t)).map (·.2)) := by
  have hmembers : ∀ b ∈ bindings.filter (·.1 ∈ delegatedTo (p.resolutions settings) t),
      p.contribution? settings b.1 = some b.2 :=
    fun b hmem => contribution?_eq_some (hb.handed b (List.mem_filter.1 hmem).1)
  have hfirsts : (bindings.filter (·.1 ∈ delegatedTo (p.resolutions settings) t)).map (·.1) =
      delegatedTo (p.resolutions settings) t := by
    have hall := ht.filter_mem_delegatedTo settings t
    rwa [← hb.sites_eq, List.filter_map] at hall
  rw [map_snd_eq_filterMap hmembers, hfirsts]
  exact ht.mapM_contribution settings fun site hs => ht.listener_of_mem_delegatedTo hs

theorem gathers_iff (ht : p.IsTree)
    (hb : p.AreBindings settings (p.resolutions settings) bindings) :
    p.Gathers settings (p.resolutions settings) bindings t script ↔
      p.IsConsolidated settings (p.resolutions settings) t script := by
  simp only [Gathers, IsConsolidated, ht.mapM_delegatedTo hb, Except.ok.injEq,
    exists_and_left, exists_eq_left']

theorem isOwnScript_iff (ht : p.IsTree) (hl : ∃ l, p.ListenerAt site l) :
    p.IsOwnScript settings site script ↔
      ∃ x, p.contribution settings site = .ok x ∧ script = Listener.script settings x.payload := by
  obtain ⟨l, c, hc, hl⟩ := hl
  simp only [IsOwnScript, listenerOn_eq_ok hc hl, ht.contribution_eq_ok settings hc hl,
    Except.ok.injEq, Prod.mk.injEq]
  constructor
  · rintro ⟨_, _, payload, ⟨rfl, rfl⟩, hpayload, rfl⟩
    rw [ht.payload_eq_ok hc, Except.ok.injEq] at hpayload
    exact ⟨_, rfl, by rw [hpayload]⟩
  · rintro ⟨_, rfl, rfl⟩
    exact ⟨c, l, _, ⟨rfl, rfl⟩, ht.payload_eq_ok hc, rfl⟩

theorem binds {head : RenderedHead} (ht : p.IsTree) (hh : p.renderHead settings = .ok head)
    (hb : p.AreBindings settings (p.resolutions settings) bindings) :
    p.Binds settings head bindings := by
  have ha := Pass.after_visits ht settings
  rw [ht.renderHead_eq, Except.ok.injEq] at hh
  subst hh
  refine ⟨hb, ?_, ?_, ?_⟩
  · intro b hmem hr
    obtain ⟨-, l, hl, -⟩ := ht.mem_resolutions_iff.1 hr
    refine (ht.mem_items_iff ha).2 ⟨_, rfl, Or.inl ⟨b.1, hr, ?_⟩⟩
    exact (ht.isOwnScript_iff ⟨l, hl⟩).2 ⟨b.2, hb.handed b hmem, rfl⟩
  · intro site t hr
    obtain ⟨script, hscript⟩ := ht.exists_isConsolidated_iff.2 ⟨site, hr⟩
    exact ⟨script, (ht.gathers_iff hb).2 hscript,
      (ht.mem_items_iff ha).2 ⟨script, rfl, Or.inr ⟨t, hscript⟩⟩⟩
  · intro item hitem
    obtain ⟨script, rfl, ⟨site, hr, hown⟩ | ⟨t, hscript⟩⟩ := (ht.mem_items_iff ha).1 hitem
    · left
      obtain ⟨-, l, hl, -⟩ := ht.mem_resolutions_iff.1 hr
      obtain ⟨x, hx, rfl⟩ := (ht.isOwnScript_iff ⟨l, hl⟩).1 hown
      have hbound : site ∈ bindings.map (·.1) := by
        rw [hb.sites_eq]
        exact List.mem_map.2 ⟨(site, .direct), List.mem_filter.2 ⟨hr, rfl⟩, rfl⟩
      obtain ⟨b, hmem, rfl⟩ := List.mem_map.1 hbound
      rw [hb.handed b hmem, Except.ok.injEq] at hx
      exact ⟨b, hmem, hr, by rw [hx]⟩
    · exact Or.inr ⟨t, script, (ht.gathers_iff hb).2 hscript, rfl⟩

theorem exists_bindings (ht : p.IsTree) (settings : Settings) :
    ∃ bindings, p.AreBindings settings (p.resolutions settings) bindings := by
  have hhanded : ∀ site ∈ ((p.resolutions settings).filter (·.2 ≠ .suppressed)).map (·.1),
      ∃ x, p.contribution settings site = .ok x := by
    intro site hs
    obtain ⟨⟨_, r⟩, hr, rfl⟩ := List.mem_map.1 hs
    obtain ⟨-, l, ⟨c, hc, hl⟩, -⟩ := ht.mem_resolutions_iff.1 (List.mem_filter.1 hr).1
    exact ⟨_, ht.contribution_eq_ok settings hc hl⟩
  obtain ⟨bindings, hsites, hall⟩ := exists_pairs hhanded
  exact ⟨bindings, hsites, hall⟩

/-- Neither which listeners are bound nor what they hand over depends on the switch. -/
theorem areBindings_delegationEnabled (ht : p.IsTree)
    (hb : p.AreBindings settings (p.resolutions settings) bindings) (enabled : Bool) :
    p.AreBindings { settings with delegationEnabled := enabled }
      (p.resolutions { settings with delegationEnabled := enabled }) bindings where
  sites_eq := by
    rw [hb.sites_eq, ht.map_fst_filter_resolutions, ht.map_fst_filter_resolutions]
  handed := hb.handed

theorem suppressed_mem_resolutions_iff (ht : p.IsTree) :
    (site, .suppressed) ∈ p.resolutions settings ↔
      p.isVisible site.component = true ∧ (∃ l, p.ListenerAt site l) ∧
        p.isEnabled site.component = false := by
  have hsuppressed : ∀ l, Resolution.suppressed = p.resolution settings site.component l ↔
      p.isEnabled site.component = false :=
    fun l => eq_comm.trans resolution_eq_suppressed_iff
  simp only [ht.mem_resolutions_iff, hsuppressed, exists_and_right]

theorem not_delegated_of_off (ht : p.IsTree) (hoff : settings.delegationEnabled = false) :
    (site, .delegated t) ∉ p.resolutions settings := by
  intro hr
  obtain ⟨-, l, -, he⟩ := ht.mem_resolutions_iff.1 hr
  obtain ⟨-, hon, -⟩ := resolution_eq_delegated_iff.1 he.symm
  rw [hoff] at hon
  cases hon

end IsTree

/-- Without listeners that were delegated there are only scripts of single listeners. -/
theorem Binds.exists_of_mem_items {head : RenderedHead} {item : HeadItem} (ht : p.IsTree)
    (hb : p.Binds settings head bindings) (hh : p.renderHead settings = .ok head)
    (hnone : ∀ site t, (site, .delegated t) ∉ head.resolutions) (hitem : item ∈ head.head.items) :
    ∃ b ∈ bindings, item = .ready (Listener.script settings b.2.payload) := by
  rw [ht.renderHead_eq, Except.ok.injEq] at hh
  subst hh
  obtain ⟨b, hmem, -, hscript⟩ | ⟨t, script, hscript, -⟩ := hb.nothing_else item hitem
  · exact ⟨b, hmem, hscript⟩
  · rw [ht.gathers_iff hb.toAreBindings] at hscript
    obtain ⟨site, hr⟩ := ht.exists_isConsolidated_iff.1 ⟨script, hscript⟩
    exact absurd hr (hnone site t)

/-- Delegation decides how the listeners are bound, not which or with what: with and without it, the
same listeners are resolved in the same order, the same of them are suppressed, and the scripts bind
the others with the same markup ids and payloads. Without it each has a script of its own, and there
are no other scripts. -/
theorem Reachable.renderHead_rebinds (hp : p.Reachable) (settings : Settings) :
    ∃ on off bindings, p.renderHead settings = .ok on ∧
      p.renderHead { settings with delegationEnabled := false } = .ok off ∧
      off.resolutions.map (·.1) = on.resolutions.map (·.1) ∧
      (∀ site, (site, .suppressed) ∈ off.resolutions ↔ (site, .suppressed) ∈ on.resolutions) ∧
      (∀ site t, (site, .delegated t) ∉ off.resolutions) ∧
      p.Binds settings on bindings ∧
      p.Binds { settings with delegationEnabled := false } off bindings ∧
      ∀ item ∈ off.head.items, ∃ b ∈ bindings,
        item = .ready (Listener.script settings b.2.payload) := by
  have ht : p.IsTree := hp.isTree
  obtain ⟨bindings, hb⟩ := ht.exists_bindings settings
  have hon := ht.renderHead_eq settings
  have hoff := ht.renderHead_eq { settings with delegationEnabled := false }
  have hnone : ∀ site t, (site, .delegated t) ∉
      p.resolutions { settings with delegationEnabled := false } :=
    fun _ _ => ht.not_delegated_of_off rfl
  have hbon := ht.binds hon hb
  have hboff := ht.binds hoff (ht.areBindings_delegationEnabled hb false)
  refine ⟨_, _, bindings, hon, hoff, ?_, ?_, hnone, hbon, hboff, ?_⟩
  · rw [map_fst_resolutions, map_fst_resolutions]
  · intro site
    rw [ht.suppressed_mem_resolutions_iff, ht.suppressed_mem_resolutions_iff]
  · intro item hitem
    -- a script of a single listener does not depend on the switch
    have hown := hboff.exists_of_mem_items ht hoff hnone hitem
    exact hown

/-- With delegation the form binds the listener of its button, without it that one binds itself like
those of the other button. -/
theorem sampleTwins_rebinds :
    ∃ (on off : RenderedHead) (bindings : List (Site × Contribution)),
      sampleTwins.renderHead {} = .ok on ∧
      sampleTwins.renderHead { delegationEnabled := false } = .ok off ∧
      on.resolutions = [(⟨2, 0⟩, .delegated ⟨1, 0⟩), (⟨3, 0⟩, .direct), (⟨3, 1⟩, .direct)] ∧
      off.resolutions = [(⟨2, 0⟩, .direct), (⟨3, 0⟩, .direct), (⟨3, 1⟩, .direct)] ∧
      bindings.map (·.1) = [⟨2, 0⟩, ⟨3, 0⟩, ⟨3, 1⟩] ∧
      ∀ item ∈ off.head.items, ∃ b ∈ bindings, item = .ready (Listener.script {} b.2.payload) := by
  have hp : sampleTwins.Reachable := ReachableBy.foldl sample_reachable fun _ _ => trivial
  obtain ⟨on, off, bindings, hon, hoff, -, -, -, hbon, -, hown⟩ := hp.renderHead_rebinds {}
  have hrs : on.resolutions =
      [(⟨2, 0⟩, .delegated ⟨1, 0⟩), (⟨3, 0⟩, .direct), (⟨3, 1⟩, .direct)] := by
    rw [hp.isTree.resolutions_of_renderHead hon]
    decide +kernel
  have hrs' : off.resolutions = [(⟨2, 0⟩, .direct), (⟨3, 0⟩, .direct), (⟨3, 1⟩, .direct)] := by
    rw [hp.isTree.resolutions_of_renderHead hoff]
    decide +kernel
  have hsites := hbon.sites_eq
  rw [hrs] at hsites
  exact ⟨on, off, bindings, hon, hoff, hrs, hrs', hsites, hown⟩

end Page

end PageListeners
