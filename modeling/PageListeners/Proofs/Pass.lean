import PageListeners.Proofs.Callback
import PageListeners.Proofs.Component
import PageListeners.Proofs.Page.Paths
import PageListeners.RenderedHead

/-!
# A pass over a tree

On a tree no step of the pass fails. What the pass does is written here as functions of the page and
the settings: where each listener goes, and what a visit leaves of the collected items and
contributions.
-/

namespace PageListeners

namespace Change

variable {σ α β : Type}

/-- Steps that keep an invariant `P`, under which each of them succeeds, succeed one after the
other. -/
theorem apply_mapM {f : α → Change σ β} {g : α → β} {step : σ → α → σ} {P : σ → Prop} {xs : List α}
    (hf : ∀ x ∈ xs, ∀ s, P s → (f x).apply s = (.ok (g x), step s x) ∧ P (step s x))
    {s : σ} (hs : P s) :
    (xs.mapM f).apply s = (.ok (xs.map g), xs.foldl step s) ∧ P (xs.foldl step s) := by
  induction xs generalizing s with
  | nil => exact ⟨rfl, hs⟩
  | cons x xs ih =>
      obtain ⟨hx, hnext⟩ := hf x List.mem_cons_self s hs
      obtain ⟨hxs, hend⟩ := ih (fun y hy => hf y (List.mem_cons_of_mem x hy)) hnext
      refine ⟨?_, hend⟩
      rw [List.mapM_cons, apply_bind_ok hx, apply_bind_ok hxs]
      rfl

theorem apply_forM {f : α → Change σ PUnit} {step : σ → α → σ} {P : σ → Prop} {xs : List α}
    (hf : ∀ x ∈ xs, ∀ s, P s → (f x).apply s = (.ok ⟨⟩, step s x) ∧ P (step s x))
    {s : σ} (hs : P s) :
    (xs.forM f).apply s = (.ok ⟨⟩, xs.foldl step s) ∧ P (xs.foldl step s) := by
  induction xs generalizing s with
  | nil => exact ⟨rfl, hs⟩
  | cons x xs ih =>
      obtain ⟨hx, hnext⟩ := hf x List.mem_cons_self s hs
      obtain ⟨hxs, hend⟩ := ih (fun y hy => hf y (List.mem_cons_of_mem x hy)) hnext
      refine ⟨?_, hend⟩
      have hcons : (x :: xs).forM f = f x >>= fun _ => xs.forM f := rfl
      rw [hcons, apply_bind_ok hx, hxs]
      rfl

end Change

namespace Page

variable {p : Page} {settings : Settings} {h : Handle} {site : Site} {c : Component} {l : Listener}

def resolution (p : Page) (settings : Settings) (h : Handle) (l : Listener) : Resolution :=
  if p.isEnabled h then
    match p.delegationTarget? settings h l.event with
    | some target => .delegated target
    | none => .direct
  else .suppressed

def payloadText (p : Page) (settings : Settings) (site : Site) (c : Component) (l : Listener) :
    String :=
  let address : Address := ⟨(p.path? site.component).getD "", site.index⟩
  let url := settings.callbackPath ++ "?" ++ (p.callbackParameters settings address).toQuery
  (l.attributes settings url c.markupId).json

def resolutionsAt (p : Page) (settings : Settings) : Visit → List (Site × Resolution)
  | .enter h =>
    match p.component? h with
    | none => []
    | some c => c.listeners.map fun l => (⟨h, l.1⟩, p.resolution settings h l.2)
  | .leave _ => []

def resolutions (p : Page) (settings : Settings) : List (Site × Resolution) :=
  p.visits.flatMap (p.resolutionsAt settings)

theorem listenerOn_eq_ok (hc : p.component? site.component = some c)
    (hl : c.behaviors[site.index]? = some (.listener l)) : p.listenerOn site = .ok (c, l) := by
  rw [listenerOn, hc]
  simp only [hl, Behavior.listener?]

theorem IsTree.payload_eq_ok (ht : p.IsTree) (hc : p.component? site.component = some c) :
    p.payload settings site c l = .ok (p.payloadText settings site c l) := by
  obtain ⟨path, hpath⟩ := ht.exists_path hc
  rw [payload, callbackUrl_of_path? hpath, payloadText, hpath]
  rfl

end Page

namespace Pass

variable (s : Pass) (p : Page)

def resolved (site : Site) (c : Component) (l : Listener) : Pass :=
  let payload := p.payloadText s.settings site c l
  match p.resolution s.settings site.component l with
  | .suppressed => s
  | .delegated target =>
    { s with contributions := s.contributions.add target ⟨c.markupId, payload⟩ }
  | .direct => { s with head := s.head.add (.ready (Listener.script s.settings payload)) }

def flushed (c : Component) (target : Site) (d : Delegator) : Pass :=
  let rest : Pass := { s with contributions := s.contributions.erase target }
  match d.script? s.settings c.markupId (s.contributions.get target) with
  | some script => { rest with head := rest.head.add (.ready script) }
  | none => rest

def visited : Visit → Pass
  | .enter h =>
    match p.component? h with
    | none => s
    | some c => c.listeners.foldl (fun s l => s.resolved p ⟨h, l.1⟩ c l.2) s
  | .leave h =>
    match p.component? h with
    | none => s
    | some c => c.delegators.foldl (fun s d => s.flushed c ⟨h, d.1⟩ d.2) s

theorem settings_resolved (site : Site) (c : Component) (l : Listener) :
    (s.resolved p site c l).settings = s.settings := by
  unfold resolved
  cases p.resolution s.settings site.component l <;> rfl

theorem settings_flushed (c : Component) (target : Site) (d : Delegator) :
    (s.flushed c target d).settings = s.settings := by
  unfold flushed
  cases d.script? s.settings c.markupId (s.contributions.get target) <;> rfl

end Pass

namespace Rendering

variable {p : Page} {c : Component} {l : Listener}

theorem apply_resolve (ht : p.IsTree) (site : Site) (hc : p.component? site.component = some c)
    (hl : c.behaviors[site.index]? = some (.listener l)) (s : Pass) :
    (resolve p site).apply s =
      (.ok (p.resolution s.settings site.component l), s.resolved p site c l) := by
  unfold resolve Pass.resolved Page.resolution
  simp only [Change.apply_bind, Change.apply_lift, Page.listenerOn_eq_ok hc hl]
  cases p.isEnabled site.component with
  | false => rfl
  | true =>
      simp only [Bool.not_true, Bool.false_eq_true, if_false, if_true, Change.apply_bind,
        Change.apply_get, Change.apply_lift, ht.payload_eq_ok hc]
      cases p.delegationTarget? s.settings site.component l.event with
      | none => rfl
      | some target => rfl

theorem apply_flushDelegator (c : Component) (target : Site) (d : Delegator) (s : Pass) :
    (flushDelegator c target d).apply s = (.ok ⟨⟩, s.flushed c target d) := by
  unfold flushDelegator collect Pass.flushed
  simp only [Change.apply_bind, Change.apply_get, Change.apply_modify, Change.apply_pure]
  cases d.script? s.settings c.markupId (s.contributions.get target) with
  | none => rfl
  | some script => rfl

theorem apply_resolveListeners (ht : p.IsTree) {h : Handle} (hc : p.component? h = some c)
    (s : Pass) :
    (c.listeners.mapM fun l => resolveListener p ⟨h, l.1⟩).apply s =
        (.ok (c.listeners.map fun l => (⟨h, l.1⟩, p.resolution s.settings h l.2)),
          c.listeners.foldl (fun t l => t.resolved p ⟨h, l.1⟩ c l.2) s) ∧
      (c.listeners.foldl (fun t l => t.resolved p ⟨h, l.1⟩ c l.2) s).settings = s.settings := by
  refine Change.apply_mapM (P := fun t : Pass => t.settings = s.settings) ?_ rfl
  intro l hl t hsettings
  have hresolve := apply_resolve ht ⟨h, l.1⟩ hc (Component.mem_listeners.1 hl) t
  rw [hsettings] at hresolve
  refine ⟨?_, (t.settings_resolved p ⟨h, l.1⟩ c l.2).trans hsettings⟩
  rw [resolveListener, Change.apply_bind_ok hresolve]
  rfl

theorem apply_flushDelegators (h : Handle) (c : Component) (s : Pass) :
    (c.delegators.forM fun d => flushDelegator c ⟨h, d.1⟩ d.2).apply s =
        (.ok ⟨⟩, c.delegators.foldl (fun t d => t.flushed c ⟨h, d.1⟩ d.2) s) ∧
      (c.delegators.foldl (fun t d => t.flushed c ⟨h, d.1⟩ d.2) s).settings = s.settings := by
  refine Change.apply_forM (P := fun t : Pass => t.settings = s.settings) ?_ rfl
  intro d _ t hsettings
  exact ⟨apply_flushDelegator c ⟨h, d.1⟩ d.2 t,
    (t.settings_flushed c ⟨h, d.1⟩ d.2).trans hsettings⟩

theorem apply_visit (ht : p.IsTree) (v : Visit) (s : Pass) :
    (visit p v).apply s = (.ok (p.resolutionsAt s.settings v), s.visited p v) ∧
      (s.visited p v).settings = s.settings := by
  cases v with
  | enter h =>
      cases hc : p.component? h with
      | none => simp only [visit, Page.resolutionsAt, Pass.visited, hc, Change.apply_pure, and_self]
      | some c =>
          simp only [visit, Page.resolutionsAt, Pass.visited, hc]
          exact apply_resolveListeners ht hc s
  | leave h =>
      cases hc : p.component? h with
      | none => simp only [visit, Page.resolutionsAt, Pass.visited, hc, Change.apply_pure, and_self]
      | some c =>
          obtain ⟨hflush, hsettings⟩ := apply_flushDelegators h c s
          simp only [visit, Page.resolutionsAt, Pass.visited, hc]
          rw [Change.apply_bind_ok hflush]
          exact ⟨rfl, hsettings⟩

end Rendering

namespace Page

variable {p : Page}

/-- On a tree no visit fails. -/
theorem IsTree.apply_visitAll (ht : p.IsTree) (settings : Settings) :
    (Rendering.visitAll p).apply { settings := settings } =
      (.ok (p.resolutions settings),
        p.visits.foldl (Pass.visited · p) { settings := settings }) := by
  have hvisit : ∀ v ∈ p.visits, ∀ s : Pass, s.settings = settings →
      (Rendering.visit p v).apply s = (.ok (p.resolutionsAt settings v), s.visited p v) ∧
        (s.visited p v).settings = settings := by
    intro v _ s hs
    have happly := Rendering.apply_visit ht v s
    rwa [hs] at happly
  obtain ⟨hvisits, -⟩ := Change.apply_mapM (P := fun s : Pass => s.settings = settings) hvisit
    (s := { settings := settings }) rfl
  rw [Rendering.visitAll, Change.apply_bind_ok hvisits]
  rfl

theorem IsTree.renderHead_eq (ht : p.IsTree) (settings : Settings) :
    p.renderHead settings = .ok
      { head := (p.visits.foldl (Pass.visited · p) { settings := settings }).head,
        resolutions := p.resolutions settings } := by
  rw [renderHead, ht.apply_visitAll]

theorem IsTree.resolutions_of_renderHead (ht : p.IsTree) {settings : Settings} {head : RenderedHead}
    (hh : p.renderHead settings = .ok head) : head.resolutions = p.resolutions settings := by
  rw [ht.renderHead_eq, Except.ok.injEq] at hh
  rw [← hh]

end Page

end PageListeners
