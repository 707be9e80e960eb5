import PageListeners.Proofs.Consolidated

/-!
# What one resolution leaves behind

Whatever a pass has collected, resolving one listener changes it in one place at most: a direct
listener adds its script to the head, a delegated one adds its contribution to those of its
delegator, and neither of them touches what others left.
-/

namespace PageListeners

namespace Page

variable {p : Page} {s : Pass} {site t : Site} {c : Component} {l : Listener}

inductive Outcome (p : Page) (site : Site) (s : Pass) : Except Error Resolution × Pass → Prop where
  | refused {e : Error} (he : p.listenerOn site = .error e) : Outcome p site s (.error e, s)
  | suppressed {l : Listener} (hl : p.ListenerAt site l)
      (hdisabled : p.isEnabled site.component = false) : Outcome p site s (.ok .suppressed, s)
  | delegated {l : Listener} {t : Site} {d : Delegator} {x : Contribution} {cs : Contributions}
      (hl : p.ListenerAt site l) (henabled : p.isEnabled site.component = true)
      (hdelegation : s.settings.delegationEnabled = true)
      (habove : p.IsAbove t.component site.component) (hd : p.DelegatorAt t d)
      (hevent : d.event = l.event) (hx : p.contribution s.settings site = .ok x)
      (hget : cs.get t = s.contributions.get t ++ [x])
      (hothers : ∀ t', t' ≠ t → cs.get t' = s.contributions.get t') :
      Outcome p site s (.ok (.delegated t), { s with contributions := cs })
  | direct {l : Listener} {script : String} {head : Head}
      (hl : p.ListenerAt site l) (henabled : p.isEnabled site.component = true)
      (hscript : p.IsOwnScript s.settings site script)
      (hitems : head.items = if .ready script ∈ s.head.items then s.head.items
        else s.head.items ++ [.ready script]) :
      Outcome p site s (.ok .direct, { s with head := head })

theorem apply_resolve_of_refused {e : Error} (he : p.listenerOn site = .error e) (s : Pass) :
    (Rendering.resolve p site).apply s = (.error e, s) := by
  simp only [Rendering.resolve, Change.apply_bind, Change.apply_lift, he]

/-- Resolving a listener has one effect, which the answer tells: a refused or suppressed one leaves
the pass as it is, a delegated one adds its contribution behind those that a delegator of its event
above it already has, and a direct one adds its script to the head, unless it is there. -/
theorem Reachable.resolve_outcome (hp : p.Reachable) (site : Site) (s : Pass) :
    p.Outcome site s ((Rendering.resolve p site).apply s) := by
  have ht : p.IsTree := hp.isTree
  cases hon : p.listenerOn site with
  | error e =>
      rw [apply_resolve_of_refused hon]
      exact .refused hon
  | ok cl =>
      obtain ⟨c, l⟩ := cl
      obtain ⟨hc, hl⟩ := listenerAt_of_listenerOn hon
      have hb := (listenerAt_iff hc).1 hl
      rw [Rendering.apply_resolve ht site hc hb s, Pass.resolved]
      cases hr : p.resolution s.settings site.component l with
      | suppressed => exact .suppressed hl (resolution_eq_suppressed_iff.1 hr)
      | delegated t =>
          obtain ⟨henabled, hdelegation, hfound⟩ := resolution_eq_delegated_iff.1 hr
          have hn := (ht.delegatorFor?_eq_some_iff.1 hfound).2
          obtain ⟨d, hd, hhandles⟩ := hn.selected
          obtain ⟨e, he⟩ := hp.isNamed hc _ (List.mem_of_getElem? hb)
          refine .delegated hl henabled hdelegation hn.above hd ((hp.handles_iff he hd).1 hhandles)
            (ht.contribution_eq_ok s.settings hc hb) ?_ ?_
          · rw [Contributions.get_add, if_pos rfl]
          · intro t' hne
            rw [Contributions.get_add, if_neg hne]
      | direct =>
          obtain ⟨henabled, -⟩ := resolution_eq_direct_iff.1 hr
          exact .direct hl henabled ⟨c, l, _, hon, ht.payload_eq_ok hc, rfl⟩ (Head.items_add _ _)

def gathering : Pass where
  settings := {}
  head := ⟨[.plain "start();"]⟩
  contributions := ⟨[(⟨1, 0⟩, [⟨"other", "\x7b\x7d"⟩])]⟩

theorem sample_resolve_outcome : ∃ x cs,
    (Rendering.resolve sample ⟨2, 0⟩).apply gathering =
      (.ok (.delegated ⟨1, 0⟩), { gathering with contributions := cs }) ∧
    sample.contribution {} ⟨2, 0⟩ = .ok x ∧ cs.get ⟨1, 0⟩ = [⟨"other", "\x7b\x7d"⟩, x] := by
  have houtcome := sample_reachable.resolve_outcome ⟨2, 0⟩ gathering
  have hanswer : ((Rendering.resolve sample ⟨2, 0⟩).apply gathering).1 =
      .ok (.delegated ⟨1, 0⟩) := by decide +kernel
  generalize (Rendering.resolve sample ⟨2, 0⟩).apply gathering = result at houtcome hanswer ⊢
  cases houtcome with
  | refused => cases hanswer
  | suppressed => cases hanswer
  | direct => cases hanswer
  | delegated hl henabled hdelegation habove hd hevent hx hget hothers =>
      cases hanswer
      exact ⟨_, _, rfl, hx, hget⟩

end Page

end PageListeners
