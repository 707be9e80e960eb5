import PageListeners.Proofs.Dispatch
import PageListeners.Proofs.Resolutions

/-!
# Pages that look alike

The head of a page does not tell whether the markup ids are written to the elements, nor how often an
event is registered if it is registered at all. Pages that differ in nothing else have one head.
-/

namespace PageListeners

def Component.unwritten (c : Component) : Component :=
  { c with outputMarkupId := false }

namespace Page

variable {p q : Page} {settings : Settings} {h : Handle}

structure LooksLike (q p : Page) : Prop where
  id_eq : q.id = p.id
  parameters_eq : q.parameters = p.parameters
  size_eq : q.slots.size = p.slots.size
  unwritten_eq : ∀ h, (q.component? h).map Component.unwritten =
    (p.component? h).map Component.unwritten
  isRegistered_eq : ∀ event, q.delegations.isRegistered event = p.delegations.isRegistered event

namespace LooksLike

theorem map_component?_eq {β : Type} {f : Component → β} (hl : q.LooksLike p)
    (hf : ∀ c, f c.unwritten = f c) (h : Handle) :
    (q.component? h).map f = (p.component? h).map f :=
  map_eq_of_map_eq hf (hl.unwritten_eq h)

theorem sameShape (hl : q.LooksLike p) : p.SameShape q :=
  fun h => (hl.map_component?_eq (f := Component.place) (fun _ => rfl) h).symm

theorem isEnabled_eq (hl : q.LooksLike p) (h : Handle) : q.isEnabled h = p.isEnabled h :=
  holdsUpward_congr (hl.map_component?_eq fun _ => rfl) h

/-- The search reads the behaviors on the way up, and whether the event is registered. -/
theorem delegatorFor?_eq (hl : q.LooksLike p) (h : Handle) (event : String) :
    q.delegatorFor? h event = p.delegatorFor? h event := by
  have hline := lineage?_congr (f := Component.unwritten) Component.parent (fun _ => rfl)
    hl.unwritten_eq h
  have hshown : (q.ancestors h).map (fun e => (e.1, e.2.unwritten)) =
      (p.ancestors h).map fun e => (e.1, e.2.unwritten) := by
    rw [map_ancestors, map_ancestors, hline]
  have hfound : ∀ r : Page, ((r.ancestors h).findSome? fun a =>
        (a.2.delegatorFor? event).map (Site.mk a.1)) =
      ((r.ancestors h).map fun e => (e.1, e.2.unwritten)).findSome? fun a =>
        (a.2.delegatorFor? event).map (Site.mk a.1) := by
    intro r
    rw [List.findSome?_map]
    rfl
  rw [delegatorFor?, delegatorFor?, hl.isRegistered_eq, hfound, hshown, ← hfound]

theorem resolution_eq (hl : q.LooksLike p) (settings : Settings) (h : Handle) (l : Listener) :
    q.resolution settings h l = p.resolution settings h l := by
  rw [resolution, resolution, hl.isEnabled_eq, delegationTarget?, delegationTarget?,
    hl.delegatorFor?_eq]

theorem payloadText_eq (hl : q.LooksLike p) (settings : Settings) (site : Site) (c : Component)
    (l : Listener) : q.payloadText settings site c l = p.payloadText settings site c l := by
  have hstateless : q.isStateless = p.isStateless :=
    isStateless_congr (hl.map_component?_eq fun _ => rfl)
  rw [payloadText, payloadText, callbackParameters, callbackParameters, hl.sameShape.path?_eq,
    hstateless, hl.parameters_eq, hl.id_eq]

theorem visits_eq (hl : q.LooksLike p) : q.visits = p.visits :=
  visits_congr hl.size_eq (hl.map_component?_eq fun _ => rfl)

theorem resolutions_eq (hl : q.LooksLike p) (settings : Settings) :
    q.resolutions settings = p.resolutions settings := by
  have hat : ∀ v, q.resolutionsAt settings v = p.resolutionsAt settings v := by
    intro v
    cases v with
    | leave h => rfl
    | enter h =>
        have hresolved : ∀ r : Page, r.resolutionsAt settings (.enter h) =
            (((r.component? h).map Component.listeners).getD []).map
              fun l => (⟨h, l.1⟩, r.resolution settings h l.2) := by
          intro r
          rw [resolutionsAt]
          cases r.component? h <;> rfl
        rw [hresolved, hresolved, hl.map_component?_eq fun _ => rfl]
        simp only [hl.resolution_eq]
  rw [resolutions, resolutions, hl.visits_eq, funext hat]

theorem resolved_eq (hl : q.LooksLike p) (s : Pass) (site : Site) {c d : Component}
    (hm : d.markupId = c.markupId) (l : Listener) :
    s.resolved q site d l = s.resolved p site c l := by
  have hpayload : q.payloadText s.settings site d l = p.payloadText s.settings site c l := by
    rw [hl.payloadText_eq, payloadText, payloadText, hm]
  unfold Pass.resolved
  rw [hl.resolution_eq, hpayload, hm]

/-- What the pass reads of a component are its markup id and its behaviors. -/
theorem component?_cases (hl : q.LooksLike p) (h : Handle) :
    (q.component? h = none ∧ p.component? h = none) ∨
      ∃ c d, q.component? h = some d ∧ p.component? h = some c ∧ d.markupId = c.markupId ∧
        d.behaviors = c.behaviors := by
  have hh := hl.unwritten_eq h
  cases hc : p.component? h with
  | none =>
      rw [hc, Option.map_none, Option.map_eq_none_iff] at hh
      exact Or.inl ⟨hh, rfl⟩
  | some c =>
      rw [hc, Option.map_some] at hh
      obtain ⟨d, hd, hsame⟩ := Option.map_eq_some_iff.1 hh
      have hm : d.unwritten.markupId = c.unwritten.markupId := by rw [hsame]
      have hb : d.unwritten.behaviors = c.unwritten.behaviors := by rw [hsame]
      exact Or.inr ⟨c, d, hd, rfl, hm, hb⟩

theorem visited_eq (hl : q.LooksLike p) (s : Pass) (v : Visit) : s.visited q v = s.visited p v := by
  cases v with
  | enter h =>
      rcases hl.component?_cases h with ⟨hq, hp⟩ | ⟨c, d, hd, hc, hm, hb⟩
      · simp only [Pass.visited, hq, hp]
      · simp only [Pass.visited, hd, hc, Component.listeners, hb, hl.resolved_eq _ _ hm]
  | leave h =>
      rcases hl.component?_cases h with ⟨hq, hp⟩ | ⟨c, d, hd, hc, hm, hb⟩
      · simp only [Pass.visited, hq, hp]
      · simp only [Pass.visited, hd, hc, Component.delegators, hb, Pass.flushed, hm]

theorem renderHead_eq (hl : q.LooksLike p) (ht : p.IsTree) (settings : Settings) :
    q.renderHead settings = p.renderHead settings := by
  have hvisited : (Pass.visited · q) = (Pass.visited · p) :=
    funext fun s => funext fun v => hl.visited_eq s v
  rw [(ht.of_sameShape hl.sameShape).renderHead_eq, ht.renderHead_eq, hl.visits_eq,
    hl.resolutions_eq, hvisited]

end LooksLike

end Page

end PageListeners
