import Mathlib.Data.Option.Basic
import PageListeners.Proofs.Consolidated

/-!
# The members of a consolidated script

A consolidated script has one member for each listener that went to its delegator, under the markup
id of the listener's component. So it tells two listeners apart only if they are on different
components: of those on one component, the payload of the last is what the client finds.
-/

namespace PageListeners

/-- The payload that an object with these members holds under a name. A later member takes the place
of an earlier one. -/
def memberValue? (name : String) (cs : List Contribution) : Option String :=
  cs.foldl (fun held c => if c.markupId = name then some c.payload else held) none

section

variable {name : String} {x : Contribution} {front back : List Contribution}

theorem foldl_member_of_ne (held : Option String) (hback : ∀ y ∈ back, y.markupId ≠ name) :
    back.foldl (fun held c => if c.markupId = name then some c.payload else held) held = held := by
  induction back with
  | nil => rfl
  | cons y ys ih =>
      rw [List.foldl_cons, if_neg (hback y List.mem_cons_self)]
      exact ih fun z hz => hback z (List.mem_cons_of_mem y hz)

theorem memberValue?_append_cons (hback : ∀ y ∈ back, y.markupId ≠ x.markupId) :
    memberValue? x.markupId (front ++ x :: back) = some x.payload := by
  rw [memberValue?, List.foldl_append, List.foldl_cons, if_pos rfl, foldl_member_of_ne _ hback]

end

namespace Page

variable {p : Page} {settings : Settings} {site t : Site} {sites : List Site} {x : Contribution}

theorem IsTree.pairwise_delegatedTo (ht : p.IsTree) (settings : Settings) (t : Site) :
    (delegatedTo (p.resolutions settings) t).Pairwise p.SiteBefore :=
  (ht.pairwise_resolutions settings).sublist (List.filter_sublist.map _)

theorem IsTree.exists_contribution (ht : p.IsTree) (settings : Settings)
    (hl : ∃ l, p.ListenerAt site l) : ∃ x, p.contribution settings site = .ok x := by
  obtain ⟨l, c, hc, hl⟩ := hl
  exact ⟨_, ht.contribution_eq_ok settings hc hl⟩

theorem IsTree.markupId?_of_contribution? (ht : p.IsTree) (hl : ∃ l, p.ListenerAt site l)
    (hx : p.contribution? settings site = some x) :
    p.markupId? site.component = some x.markupId := by
  obtain ⟨l, c, hc, hl⟩ := hl
  rw [contribution?_eq_some (ht.contribution_eq_ok settings hc hl), Option.some.injEq] at hx
  rw [markupId?, hc, ← hx]
  rfl

/-- The members stand under the markup ids of the components. -/
theorem IsTree.map_markupId_contributions (ht : p.IsTree)
    (hsites : ∀ site ∈ sites, ∃ l, p.ListenerAt site l) :
    (sites.filterMap (p.contribution? settings)).map
        (fun x => some x.markupId) =
      sites.map fun site => p.markupId? site.component := by
  induction sites with
  | nil => rfl
  | cons site sites ih =>
      have hl := hsites site List.mem_cons_self
      obtain ⟨x, hx⟩ := ht.exists_contribution settings hl
      have hrest := ih fun s hs => hsites s (List.mem_cons_of_mem site hs)
      rw [List.filterMap_cons_some (contribution?_eq_some hx), List.map_cons, List.map_cons, hrest,
        ht.markupId?_of_contribution? hl (contribution?_eq_some hx)]

theorem ReachableBy.nodup_members_iff {allowed : Operation → Prop} (hp : ReachableBy allowed p)
    (hsites : ∀ site ∈ sites, ∃ l, p.ListenerAt site l) (hsorted : sites.Pairwise p.SiteBefore) :
    ((sites.filterMap (p.contribution? settings)).map (·.markupId)).Nodup ↔
      ∀ s s', s ∈ sites → s' ∈ sites → s.component = s'.component → s = s' := by
  have ht : p.IsTree := hp.isTree
  have hnodup : sites.Nodup := ht.nodup_of_pairwise_siteBefore hsorted
  have hcomponent : ∀ s ∈ sites, ∀ s' ∈ sites,
      p.markupId? s.component = p.markupId? s'.component → s.component = s'.component := by
    intro s hs s' hs' hsame
    obtain ⟨x, hx⟩ := ht.exists_contribution settings (hsites s hs)
    have hm := ht.markupId?_of_contribution? (hsites s hs) (contribution?_eq_some hx)
    exact hp.eq_of_markupId? hm (hsame ▸ hm)
  have hnames : ((sites.filterMap (p.contribution? settings)).map (·.markupId)).map some =
      sites.map fun site => p.markupId? site.component := by
    rw [List.map_map]
    exact ht.map_markupId_contributions hsites
  rw [← List.nodup_map_iff (Option.some_injective _), hnames, List.nodup_map_iff_inj_on hnodup]
  constructor
  · intro hinj s s' hs hs' hsame
    exact hinj s hs s' hs' (congrArg p.markupId? hsame)
  · intro hinj s hs s' hs' hsame
    exact hinj s s' hs hs' (hcomponent s hs s' hs' hsame)

theorem ReachableBy.memberValue?_of_last {allowed : Operation → Prop} (hp : ReachableBy allowed p)
    (hsites : ∀ site ∈ sites, ∃ l, p.ListenerAt site l) (hsorted : sites.Pairwise p.SiteBefore)
    (hs : site ∈ sites)
    (hlast : ∀ s ∈ sites, s.component = site.component → s.index ≤ site.index) :
    ∃ x, p.contribution settings site = .ok x ∧
      memberValue? x.markupId (sites.filterMap (p.contribution? settings)) = some x.payload := by
  have ht : p.IsTree := hp.isTree
  obtain ⟨x, hx⟩ := ht.exists_contribution settings (hsites site hs)
  obtain ⟨front, back, rfl⟩ := List.append_of_mem hs
  refine ⟨x, hx, ?_⟩
  rw [List.filterMap_append, List.filterMap_cons_some (contribution?_eq_some hx)]
  refine memberValue?_append_cons ?_
  intro y hy hsame
  obtain ⟨s, hback, hy⟩ := List.mem_filterMap.1 hy
  have hmem : s ∈ front ++ site :: back := List.mem_append_right _ (List.mem_cons_of_mem _ hback)
  -- a later listener on the same component would have a larger index
  have hcomponent : s.component = site.component := by
    refine hp.eq_of_markupId? (ht.markupId?_of_contribution? (hsites s hmem) hy) ?_
    rw [hsame]
    exact ht.markupId?_of_contribution? (hsites site hs) (contribution?_eq_some hx)
  have hbefore := (List.pairwise_cons.1 (List.pairwise_append.1 hsorted).2.1).1 s hback
  rcases hbefore with hbefore | ⟨-, hlt⟩
  · exact ht.not_comesBefore_self (hcomponent ▸ hbefore)
  · exact Nat.not_lt.2 (hlast s hmem hcomponent) hlt

/-- The names of the members are different exactly if no two of the listeners that went to the
delegator are on one component. Of those on one component the last can be read. -/
theorem Reachable.renderHead_members (hp : p.Reachable) (settings : Settings) :
    ∃ head, p.renderHead settings = .ok head ∧ ∀ t cs,
      (delegatedTo head.resolutions t).mapM (p.contribution settings) = .ok cs →
      ((cs.map (·.markupId)).Nodup ↔ ∀ s s', (s, .delegated t) ∈ head.resolutions →
        (s', .delegated t) ∈ head.resolutions → s.component = s'.component → s = s') ∧
      ∀ s, (s, .delegated t) ∈ head.resolutions →
        (∀ s', (s', .delegated t) ∈ head.resolutions → s'.component = s.component →
          s'.index ≤ s.index) →
        ∃ x, p.contribution settings s = .ok x ∧
          memberValue? x.markupId cs = some x.payload := by
  have ht : p.IsTree := hp.isTree
  refine ⟨_, ht.renderHead_eq settings, ?_⟩
  intro t cs hcs
  have hsites : ∀ site ∈ delegatedTo (p.resolutions settings) t, ∃ l, p.ListenerAt site l :=
    fun site hs => ht.listener_of_mem_delegatedTo hs
  have hsorted := ht.pairwise_delegatedTo settings t
  rw [ht.mapM_contribution settings hsites, Except.ok.injEq] at hcs
  subst hcs
  simp only [← mem_delegatedTo]
  generalize delegatedTo (p.resolutions settings) t = sites at hsites hsorted
  exact ⟨hp.nodup_members_iff hsites hsorted, fun s hs => hp.memberValue?_of_last hsites hsorted hs⟩

def saveMember (index : Nat) : Contribution where
  markupId := "save_2"
  payload := "\x7b\"u\":\"./?q=1&_listener=form%3Asave%3A" ++ toString index ++
    "\",\"c\":\"save_2\",\"e\":\"click\"\x7d"

theorem sample_renderHead_members :
    ∃ head, sample.renderHead {} = .ok head ∧
      ([saveMember 0].map (·.markupId)).Nodup ∧
        memberValue? (saveMember 0).markupId [saveMember 0] = some (saveMember 0).payload := by
  obtain ⟨head, hhead, hmembers⟩ := sample_reachable.renderHead_members {}
  have hrs : head.resolutions = [(⟨2, 0⟩, .delegated ⟨1, 0⟩)] := by
    rw [sample_reachable.isTree.resolutions_of_renderHead hhead]
    decide +kernel
  have hx : sample.contribution {} ⟨2, 0⟩ = .ok (saveMember 0) := by decide +kernel
  obtain ⟨hnames, hlast⟩ := hmembers ⟨1, 0⟩ [saveMember 0] (by rw [hrs]; decide +kernel)
  simp only [hrs, List.mem_singleton, Prod.mk.injEq, and_true] at hnames hlast
  obtain ⟨x, hx', hvalue⟩ := hlast ⟨2, 0⟩ rfl fun s hs _ => Nat.le_of_eq (congrArg Site.index hs)
  rw [hx, Except.ok.injEq] at hx'
  refine ⟨head, hhead, hnames.2 ?_, hx' ▸ hvalue⟩
  intro s s' hs hs' _
  rw [hs, hs']

def doubled : Page :=
  (Operation.attach 2 (.listener saveListener) saveListener_isNamed).run sample

/-- Both listeners go into the script under one name, and only the second can be read. -/
theorem doubled_repeats_member :
    doubled.Reachable ∧ ∃ head script, doubled.renderHead {} = .ok head ∧
      head.resolutions = [(⟨2, 0⟩, .delegated ⟨1, 0⟩), (⟨2, 1⟩, .delegated ⟨1, 0⟩)] ∧
      (delegatedTo head.resolutions ⟨1, 0⟩).mapM (doubled.contribution {}) =
        .ok [saveMember 0, saveMember 1] ∧
      head.head.items = [.ready script] ∧
      Delegator.script? ⟨"click"⟩ {} "form_1" [saveMember 0, saveMember 1] = some script ∧
      ¬ ([saveMember 0, saveMember 1].map (·.markupId)).Nodup ∧
      memberValue? "save_2" [saveMember 0, saveMember 1] = some (saveMember 1).payload ∧
      (saveMember 0).payload ≠ (saveMember 1).payload := by
  have hp : doubled.Reachable := sample_reachable.step trivial
  refine ⟨hp, _, _, hp.isTree.renderHead_eq {}, ?_, ?_, ?_, rfl, ?_, rfl, ?_⟩
  all_goals decide +kernel

end Page

end PageListeners
