import Mathlib.Data.List.Forall2
import PageListeners.Delegation
import PageListeners.Proofs.Agreement

/-!
# Pages that are built anew

A page with stateless behaviors only can be dropped after each request and built anew for the next
one, from the parameters of the last reply. A client that follows the callback URLs gets the same
from both, but for the markup id of the page's own node.
-/

namespace PageListeners

/-- The request of a callback URL; there is none for a component that is not live. -/
def Edit.call (settings : Settings) (site : Site) : Edit Reply := do
  let query ← liftM ((← get).callbackQuery settings site.component site.index)
  dispatch settings query

structure Exchange where
  page : Page
  answer : Except Error Reply

def Exchange.parameters (x : Exchange) : Parameters :=
  match x.answer with
  | .ok r => r.parameters
  | .error _ => x.page.parameters

namespace Page

variable {p q : Page} {settings : Settings}

def exchange (p : Page) (settings : Settings) (site : Site) : Exchange :=
  { page := p, answer := ((Edit.call settings site).apply p).1 }

def keep (settings : Settings) (p : Page) : List Site → List Exchange
  | [] => []
  | site :: sites =>
    p.exchange settings site :: keep settings ((Edit.call settings site).apply p).2 sites

/-- Each call goes to a page of its own, with the parameters that the call before left. -/
def rebuild (settings : Settings) (ps : Parameters) : List (Site × Page) → List Exchange
  | [] => []
  | (site, q) :: calls =>
    let x := { q with parameters := ps }.exchange settings site
    x :: rebuild settings x.parameters calls

/-- The components of `q` are those of `p`, but for the markup id of the page's own node. -/
def IsRebuilt (p q : Page) : Prop :=
  ∃ m, ∀ h, q.component? h = (p.update root fun c => { c with markupId := m }).component? h

def SameMarkupId (p q : Page) (s t : String) : Prop :=
  ∃ h, p.markupId? h = some s ∧ q.markupId? h = some t ∧ (h ≠ root → s = t)

end Page

structure Exchange.Matches (settings : Settings) (x y : Exchange) : Prop where
  urls : ∀ h index, y.page.callbackUrl settings h index = x.page.callbackUrl settings h index
  answers : (∃ e, x.answer = .error e ∧ y.answer = .error e) ∨
    ∃ r t, x.answer = .ok r ∧ y.answer = .ok t ∧ t.scripts = r.scripts ∧
      t.parameters = r.parameters ∧
      List.Forall₂ (Page.SameMarkupId x.page y.page) r.markupIds t.markupIds

theorem Edit.apply_call (settings : Settings) (site : Site) (p : Page) :
    (call settings site).apply p =
      match p.callbackQuery settings site.component site.index with
      | .error e => (.error e, p)
      | .ok query => (dispatch settings query).apply p := by
  simp only [call, Change.apply_bind, Change.apply_get, Change.apply_lift]
  cases p.callbackQuery settings site.component site.index <;> rfl

namespace Page

variable {p q : Page} {settings : Settings}

namespace IsRebuilt

theorem agrees (hr : p.IsRebuilt q) : p.Agrees q := by
  obtain ⟨m, hm⟩ := hr
  intro h
  rw [hm, component?_update]
  by_cases hh : h = root
  · rw [if_pos hh, Option.map_map, hh]
    rfl
  · rw [if_neg hh]

theorem with_parameters (hr : p.IsRebuilt q) (ps qs : Parameters) :
    { p with parameters := ps }.IsRebuilt { q with parameters := qs } := by
  obtain ⟨m, hm⟩ := hr
  exact ⟨m, fun h => hm h⟩

theorem markupIds (hr : p.IsRebuilt q) (marked : List Handle) :
    List.Forall₂ (p.SameMarkupId q) (marked.filterMap p.markupId?)
      (marked.filterMap q.markupId?) := by
  obtain ⟨m, hm⟩ := hr
  induction marked with
  | nil => exact .nil
  | cons h marked ih =>
      have hh := hm h
      rw [component?_update] at hh
      cases hc : p.component? h with
      | none =>
          have hd : q.component? h = none := by
            by_cases hroot : h = root
            · rw [hh, if_pos hroot, ← hroot, hc, Option.map_none]
            · rw [hh, if_neg hroot, hc]
          simp only [List.filterMap_cons, markupId?, hc, hd, Option.map_none]
          exact ih
      | some c =>
          have hd : ∃ d, q.component? h = some d ∧ (h ≠ root → c.markupId = d.markupId) := by
            by_cases hroot : h = root
            · exact ⟨_, by rw [hh, if_pos hroot, ← hroot, hc, Option.map_some],
                fun hne => absurd hroot hne⟩
            · exact ⟨c, by rw [hh, if_neg hroot, hc], fun _ => rfl⟩
          obtain ⟨d, hd, hsame⟩ := hd
          have hp : p.markupId? h = some c.markupId := by rw [markupId?, hc, Option.map_some]
          have hq : q.markupId? h = some d.markupId := by rw [markupId?, hd, Option.map_some]
          rw [List.filterMap_cons_some hp, List.filterMap_cons_some hq]
          exact .cons ⟨h, hp, hq, hsame⟩ ih

end IsRebuilt

/-- A call leaves its parameters to the page and changes nothing else. -/
theorem apply_call_snd (p : Page) (settings : Settings) (site : Site) :
    ((Edit.call settings site).apply p).2 =
      { p with parameters := (p.exchange settings site).parameters } := by
  rw [exchange, Exchange.parameters, Edit.apply_call]
  cases p.callbackQuery settings site.component site.index with
  | error e => rfl
  | ok query =>
      simp only [Edit.apply_dispatch]
      cases p.authorize settings (.ofQuery query) <;> rfl

theorem exchange_matches (hr : p.IsRebuilt q) (hstateless : p.isStateless = true)
    (hne : settings.listenerParam ≠ settings.pageParam) (hps : q.parameters = p.parameters)
    (site : Site) :
    (p.exchange settings site).Matches settings (q.exchange settings site) := by
  have hquery : ∀ h index, q.callbackQuery settings h index = p.callbackQuery settings h index :=
    hr.agrees.callbackQuery_eq hstateless hps
  refine ⟨fun h index => by simp only [exchange, callbackUrl, hquery], ?_⟩
  simp only [exchange, Edit.apply_call, hquery]
  cases hpath : p.path? site.component with
  | none =>
      simp only [callbackQuery, hpath]
      exact Or.inl ⟨_, rfl, rfl⟩
  | some path =>
      have hnone : (p.callbackParameters settings ⟨path, site.index⟩).get? settings.pageParam =
          none := by
        rw [p.get?_pageParam_callbackParameters _ hne, if_pos hstateless]
      simp only [callbackQuery, hpath, Edit.apply_dispatch, Parameters.ofQuery_toQuery,
        hr.agrees.authorize_eq hstateless hnone]
      cases p.authorize settings (p.callbackParameters settings ⟨path, site.index⟩) with
      | error e => exact Or.inl ⟨e, rfl, rfl⟩
      | ok l => exact Or.inr ⟨_, _, rfl, rfl, rfl, rfl, hr.markupIds _⟩

end Page

theorem Exchange.Matches.parameters_eq {settings : Settings} {x y : Exchange}
    (hm : x.Matches settings y) (hps : y.page.parameters = x.page.parameters) :
    y.parameters = x.parameters := by
  unfold Exchange.parameters
  rcases hm.answers with ⟨e, hx, hy⟩ | ⟨r, t, hx, hy, -, hrt, -⟩
  · rw [hx, hy]
    exact hps
  · rw [hx, hy]
    exact hrt

namespace Page

variable {p : Page} {settings : Settings}

/-- Call by call, a page that is kept and pages that are built anew give the same. -/
theorem keep_matches_rebuild (hstateless : p.isStateless = true)
    (hne : settings.listenerParam ≠ settings.pageParam) (calls : List (Site × Page))
    (hcalls : ∀ call ∈ calls, p.IsRebuilt call.2) :
    List.Forall₂ (Exchange.Matches settings) (keep settings p (calls.map (·.1)))
      (rebuild settings p.parameters calls) := by
  induction calls generalizing p with
  | nil => exact .nil
  | cons call calls ih =>
      obtain ⟨site, q⟩ := call
      have hr : p.IsRebuilt { q with parameters := p.parameters } :=
        (hcalls (site, q) List.mem_cons_self).with_parameters p.parameters p.parameters
      have hmatch := exchange_matches hr hstateless hne rfl site
      have hleft := hmatch.parameters_eq rfl
      rw [List.map_cons, keep, rebuild, apply_call_snd]
      refine .cons hmatch ?_
      rw [hleft]
      refine ih (p := { p with parameters := (p.exchange settings site).parameters }) hstateless ?_
      intro call hcall
      exact (hcalls call (List.mem_cons_of_mem _ hcall)).with_parameters _ call.2.parameters

def sampleAnew : Page :=
  { sample.update root fun c => { c with markupId := "page8" } with id := 8 }

theorem sample_isRebuilt : sample.IsRebuilt sampleAnew :=
  ⟨"page8", fun _ => rfl⟩

def sampleCalls : List (Site × Page) :=
  [(⟨2, 0⟩, sampleAnew), (⟨1, 0⟩, sampleAnew), (⟨2, 0⟩, sampleAnew)]

theorem sample_keep_matches_rebuild :
    List.Forall₂ (Exchange.Matches {}) (keep {} sample (sampleCalls.map (·.1)))
      (rebuild {} sample.parameters sampleCalls) := by
  have hstateless : sample.isStateless = true := by decide +kernel
  have hcalls : ∀ call ∈ sampleCalls, sample.IsRebuilt call.2 := by
    intro call hcall
    simp only [sampleCalls, List.mem_cons, List.not_mem_nil, or_false] at hcall
    rcases hcall with rfl | rfl | rfl <;> exact sample_isRebuilt
  exact keep_matches_rebuild hstateless (by decide) sampleCalls hcalls

end Page

end PageListeners
