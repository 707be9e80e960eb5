import PageListeners.Proofs.Dispatch
import PageListeners.Proofs.Resolutions

/-!
# Which listeners a head binds

The pass enters exactly the components that are visible up to the page. So the head has a resolution
for each listener on one of them, and it binds those that a request may invoke.
-/

namespace PageListeners

namespace Page

variable {p : Page} {settings : Settings} {g h : Handle} {c : Component} {site : Site}

theorem resolution_binds_iff (p : Page) (settings : Settings) (h : Handle) (l : Listener) :
    (p.resolution settings h l = .direct ∨
      ∃ target, p.resolution settings h l = .delegated target) ↔ p.isEnabled h = true := by
  unfold resolution
  cases p.isEnabled h with
  | false => simp
  | true => cases p.delegationTarget? settings h l.event <;> simp

namespace IsTree

/-- A head binds the listeners on the components that are open up to the page. -/
theorem binds_iff (ht : p.IsTree) {head : Head} (hc : p.component? h = some c) (index : Nat) :
    ((RenderedHead.mk head (p.resolutions settings)).resolution? ⟨h, index⟩ = some .direct ∨
        ∃ target, (RenderedHead.mk head (p.resolutions settings)).resolution? ⟨h, index⟩ =
          some (.delegated target)) ↔
      (p.isVisible h = true ∧ p.isEnabled h = true) ∧
        ∃ l, c.behaviors[index]? = some (.listener l) := by
  simp only [ht.resolution?_eq_some_iff, listenerAt_iff hc]
  constructor
  · rintro (⟨hvisible, l, hl, hr⟩ | ⟨target, hvisible, l, hl, hr⟩)
    · exact ⟨⟨hvisible, (resolution_binds_iff ..).1 (Or.inl hr.symm)⟩, l, hl⟩
    · exact ⟨⟨hvisible, (resolution_binds_iff ..).1 (Or.inr ⟨target, hr.symm⟩)⟩, l, hl⟩
  · rintro ⟨⟨hvisible, henabled⟩, l, hl⟩
    rcases (resolution_binds_iff p settings h l).2 henabled with hr | ⟨target, hr⟩
    · exact Or.inl ⟨hvisible, l, hl, hr.symm⟩
    · exact Or.inr ⟨target, hvisible, l, hl, hr.symm⟩

theorem exists_listenerAt_iff (ht : p.IsTree) {path : String} (hc : p.component? h = some c)
    (hpath : p.path? h = some path) (index : Nat) :
    (∃ l, p.listenerAt ⟨path, index⟩ = .ok l) ↔
      (p.isVisible h = true ∧ p.isEnabled h = true) ∧
        ∃ l, c.behaviors[index]? = some (.listener l) := by
  have hfind : p.find? path = some h := ht.find?_iff_path?.2 hpath
  simp only [listenerAt_eq_ok_iff]
  constructor
  · rintro ⟨l, h', c', hfind', hopen, hc', hl⟩
    rw [hfind] at hfind'
    cases hfind'
    rw [hc] at hc'
    cases hc'
    exact ⟨hopen, l, hl⟩
  · rintro ⟨hopen, l, hl⟩
    exact ⟨l, h, c, hfind, hopen, hc, hl⟩

end IsTree

/-- A listener is bound by the rendered head exactly if the request of its callback URL is let in on
the same page. -/
theorem Reachable.binds_iff_dispatches (hp : p.Reachable)
    (hne : settings.listenerParam ≠ settings.pageParam) (hc : p.component? h = some c)
    (index : UInt64) :
    ∃ head query, p.renderHead settings = .ok head ∧
      p.callbackUrl settings h index.toNat = .ok (settings.callbackPath ++ "?" ++ query) ∧
      ((head.resolution? ⟨h, index.toNat⟩ = some .direct ∨
          ∃ target, head.resolution? ⟨h, index.toNat⟩ = some (.delegated target)) ↔
        ∃ r q, (Edit.dispatch settings query).apply p = (.ok r, q)) := by
  have ht : p.IsTree := hp.isTree
  obtain ⟨path, hpath⟩ := ht.exists_path hc
  refine ⟨_, _, ht.renderHead_eq settings, callbackUrl_of_path? hpath settings index.toNat, ?_⟩
  rw [ht.binds_iff hc, ← ht.exists_listenerAt_iff hc hpath, Edit.apply_dispatch,
    Parameters.ofQuery_toQuery, p.authorize_callbackParameters hne index.toNat_lt]
  cases p.listenerAt ⟨path, index.toNat⟩ with
  | error e => simp
  | ok l => simp

theorem sample_binds_iff_dispatches :
    ∃ head query, sample.renderHead {} = .ok head ∧
      sample.callbackUrl {} 2 0 = .ok ("./?" ++ query) ∧
      ((head.resolution? ⟨2, 0⟩ = some .direct ∨
          ∃ target, head.resolution? ⟨2, 0⟩ = some (.delegated target)) ↔
        ∃ r q, (Edit.dispatch {} query).apply sample = (.ok r, q)) := by
  obtain ⟨c, hc, -⟩ := sample_save
  have hne : ({} : Settings).listenerParam ≠ ({} : Settings).pageParam := by decide
  exact sample_reachable.binds_iff_dispatches hne hc 0

end Page

end PageListeners
