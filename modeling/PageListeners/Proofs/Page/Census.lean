import Mathlib.Algebra.GroupWithZero.Nat
import Mathlib.Data.List.Perm.Basic
import PageListeners.Proofs.Page.Reachable
import PageListeners.Proofs.Registry

/-!
# The registry counts the delegators

Every step keeps the registry in agreement with the delegators on the live components, event by
event. An edit of one component changes the census by what it changes there, so each step is looked
at in one place.
-/

namespace PageListeners

namespace Behavior

def delegates (event : String) : Behavior → Bool
  | listener _ => false
  | delegator d => d.event == event

theorem count_enter (b : Behavior) (r : Registry) (event : String) :
    (b.enter r).count event = r.count event + if b.delegates event then 1 else 0 := by
  cases b with
  | listener l => rfl
  | delegator d =>
      simp only [enter, delegates, Registry.count_register, beq_iff_eq, eq_comm (a := event)]

theorem count_leave (b : Behavior) (r : Registry) (event : String) :
    (b.leave r).count event = r.count event - if b.delegates event then 1 else 0 := by
  cases b with
  | listener l => rfl
  | delegator d =>
      simp only [leave, delegates, Registry.count_unregister, beq_iff_eq, eq_comm (a := event)]

end Behavior

namespace Component

def tally (event : String) (c : Component) : Nat :=
  c.behaviors.countP (Behavior.delegates event)

theorem countP_delegators (c : Component) (event : String) :
    c.delegators.countP (·.2.event == event) = c.tally event := by
  have hbehaviors : c.behaviors = c.behaviors.zipIdx.map Prod.fst := (List.zipIdx_map_fst 0 _).symm
  rw [tally, delegators, List.countP_filterMap, hbehaviors, List.countP_map, ← hbehaviors]
  congr 1
  funext b
  obtain ⟨b, i⟩ := b
  cases b <;> rfl

end Component

theorem sum_add_getD {xs ys : List Nat} {i : Nat} (hlength : ys.length = xs.length)
    (hoff : ∀ j, j ≠ i → ys[j]?.getD 0 = xs[j]?.getD 0) :
    ys.sum + xs[i]?.getD 0 = xs.sum + ys[i]?.getD 0 := by
  induction xs generalizing ys i with
  | nil =>
      rw [List.eq_nil_of_length_eq_zero hlength]
  | cons x xs ih =>
      cases ys with
      | nil => cases hlength
      | cons y ys =>
          have hrest : ys.length = xs.length := Nat.succ.inj hlength
          cases i with
          | zero =>
              -- the tails agree everywhere, so also off a place that neither of them has
              have hsame := ih hrest (i := xs.length) fun j _ => hoff (j + 1) (Nat.succ_ne_zero j)
              rw [List.getElem?_eq_none (Nat.le_refl _),
                List.getElem?_eq_none (Nat.le_of_eq hrest)] at hsame
              simp only [List.sum_cons, List.getElem?_cons_zero, Option.getD_some]
              omega
          | succ i =>
              have hhead := hoff 0 (Nat.succ_ne_zero i).symm
              have htail := ih hrest (i := i) fun j hj => hoff (j + 1) (mt Nat.succ.inj hj)
              simp only [List.getElem?_cons_zero, Option.getD_some] at hhead
              simp only [List.sum_cons, List.getElem?_cons_succ]
              omega

theorem Registry.count_foldl_unregister (ds : List (Nat × Delegator)) (r : Registry)
    (event : String) :
    (ds.foldl (fun r d => r.unregister d.2.event) r).count event =
      r.count event - ds.countP (·.2.event == event) := by
  induction ds generalizing r with
  | nil => rfl
  | cons d ds ih =>
      rw [List.foldl_cons, ih, count_unregister, List.countP_cons]
      simp only [beq_iff_eq, eq_comm (a := event)]
      omega

namespace Page

variable {p q : Page} {h : Handle} {c : Component}

/-- The number of delegators for an event on the live components. -/
def census (p : Page) (event : String) : Nat :=
  (p.components.map fun c => c.2.tally event).sum

def tallyAt (p : Page) (event : String) (h : Handle) : Nat :=
  ((p.component? h).map (Component.tally event)).getD 0

def Counted (p : Page) : Prop :=
  ∀ event, p.delegations.count event = p.census event

/-- From `p` to `q` the registry goes down by the delegators that are gone, whatever it counted. -/
def Releases (p q : Page) : Prop :=
  ∀ event, q.census event ≤ p.census event ∧
    q.delegations.count event = p.delegations.count event - (p.census event - q.census event)

theorem sum_map_slots (w : Component → Nat) (slots : List (Option Component)) (start : Nat) :
    (((slots.zipIdx start).filterMap fun s => s.1.map (s.2, ·)).map fun c => w c.2).sum =
      (slots.map fun s => (s.map w).getD 0).sum := by
  induction slots generalizing start with
  | nil => rfl
  | cons s slots ih =>
      rw [List.zipIdx_cons, List.filterMap_cons, List.map_cons, List.sum_cons]
      cases s with
      | none => simpa using ih (start + 1)
      | some c => simpa using ih (start + 1)

theorem census_eq_sum (p : Page) (event : String) :
    p.census event =
      (p.slots.toList.map fun s => (s.map (Component.tally event)).getD 0).sum :=
  sum_map_slots ..

theorem tallyAt_eq_getElem? (p : Page) (event : String) (h : Handle) :
    p.tallyAt event h =
      ((p.slots.toList.map fun s => (s.map (Component.tally event)).getD 0)[h]?).getD 0 := by
  rw [tallyAt, component?, List.getElem?_map, Array.getElem?_toList]
  cases p.slots[h]? <;> rfl

theorem tallyAt_eq_of_behaviors_eq (event : String)
    (he : (q.component? h).map Component.behaviors = (p.component? h).map Component.behaviors) :
    q.tallyAt event h = p.tallyAt event h := by
  have hfactor : ∀ o : Option Component, o.map (Component.tally event) =
      (o.map Component.behaviors).map fun bs => bs.countP (Behavior.delegates event) := by
    intro o
    rw [Option.map_map]
    rfl
  rw [tallyAt, tallyAt, hfactor, he, ← hfactor]

/-- Two pages that differ in the behaviors of one handle differ in its part of the census. -/
theorem census_add_tallyAt (hsize : q.slots.size = p.slots.size)
    (hoff : ∀ g, g ≠ h → (q.component? g).map Component.behaviors =
      (p.component? g).map Component.behaviors) (event : String) :
    q.census event + p.tallyAt event h = p.census event + q.tallyAt event h := by
  rw [census_eq_sum, census_eq_sum, tallyAt_eq_getElem?, tallyAt_eq_getElem?]
  apply sum_add_getD
  · simpa using hsize
  · intro g hg
    rw [← tallyAt_eq_getElem?, ← tallyAt_eq_getElem?]
    exact tallyAt_eq_of_behaviors_eq event (hoff g hg)

theorem census_eq_of_behaviors_eq (hsize : q.slots.size = p.slots.size)
    (hsame : ∀ g, (q.component? g).map Component.behaviors =
      (p.component? g).map Component.behaviors) (event : String) :
    q.census event = p.census event := by
  have hadd := census_add_tallyAt (h := root) hsize (fun g _ => hsame g) event
  rw [tallyAt_eq_of_behaviors_eq event (hsame root)] at hadd
  exact Nat.add_right_cancel hadd

theorem census_update {u : Component → Component} (hu : ∀ c, (u c).behaviors = c.behaviors)
    (p : Page) (h : Handle) (event : String) : (p.update h u).census event = p.census event :=
  census_eq_of_behaviors_eq (Array.size_modify ..) (map_component?_update hu p h) event

theorem tallyAt_of_live (hc : p.component? h = some c) (event : String) :
    p.tallyAt event h = c.tally event := by
  rw [tallyAt, hc]
  rfl

theorem census_grow (p : Page) (parent : Handle) (id event : String) :
    (p.grow parent id).census event = p.census event := by
  rw [grow, census_update, census_eq_sum, census_eq_sum]
  · simp [newComponent, Component.tally]
  · intro c
    rfl

theorem count_withBehavior (p : Page) (h : Handle) (b : Behavior) (event : String) :
    (p.withBehavior h b).delegations.count event =
      p.delegations.count event + if b.delegates event then 1 else 0 :=
  b.count_enter p.delegations event

theorem count_withoutBehavior (p : Page) (h : Handle) (index : Nat) (b : Behavior)
    (event : String) :
    (p.withoutBehavior h index b).delegations.count event =
      p.delegations.count event - if b.delegates event then 1 else 0 :=
  b.count_leave p.delegations event

theorem size_discard (p : Page) (h : Handle) : (p.discard h).slots.size = p.slots.size := by
  unfold discard
  split
  · rfl
  · exact Array.size_setIfInBounds

namespace Releases

theorem of_eq (hregistry : q.delegations = p.delegations)
    (hcensus : ∀ event, q.census event = p.census event) : p.Releases q := by
  intro event
  rw [hregistry, hcensus, Nat.sub_self]
  exact ⟨Nat.le_refl _, rfl⟩

theorem trans {r : Page} (hq : p.Releases q) (hr : q.Releases r) : p.Releases r := by
  intro event
  obtain ⟨hle, hcount⟩ := hq event
  obtain ⟨hle', hcount'⟩ := hr event
  refine ⟨Nat.le_trans hle' hle, ?_⟩
  rw [hcount', hcount, Nat.sub_sub]
  omega

theorem discard (p : Page) (h : Handle) : p.Releases (p.discard h) := by
  cases hc : p.component? h with
  | none =>
      rw [Page.discard, hc]
      exact of_eq rfl fun _ => rfl
  | some c =>
      intro event
      have hoff : ∀ g, g ≠ h → ((p.discard h).component? g).map Component.behaviors =
          (p.component? g).map Component.behaviors := by
        intro g hg
        rw [component?_discard, if_neg hg]
      have hgone : (p.discard h).tallyAt event h = 0 := by
        rw [tallyAt, component?_discard, if_pos rfl]
        rfl
      have hregistry : (p.discard h).delegations.count event =
          p.delegations.count event - c.tally event := by
        rw [Page.discard, hc, ← c.countP_delegators]
        exact Registry.count_foldl_unregister ..
      have hcensus := census_add_tallyAt (size_discard p h) hoff event
      rw [hgone, tallyAt_of_live hc] at hcensus
      rw [hregistry]
      omega

theorem prune (p : Page) (h : Handle) : p.Releases (p.prune h) := by
  rw [Page.prune]
  generalize p.subtree h = hs
  induction hs generalizing p with
  | nil => exact of_eq rfl fun _ => rfl
  | cons k hs ih => exact (discard p k).trans (ih (p.discard k))

theorem cut (p : Page) (h : Handle) (above : Option Handle) : p.Releases (p.cut h above) := by
  cases above with
  | none => exact prune p h
  | some g =>
      refine (prune p h).trans (of_eq rfl ?_)
      intro event
      rw [Page.cut, census_update]
      intro c
      rfl

end Releases

namespace Counted

theorem of_eq (hp : p.Counted) (hregistry : q.delegations = p.delegations)
    (hcensus : ∀ event, q.census event = p.census event) : q.Counted := by
  intro event
  rw [hregistry, hcensus, hp event]

theorem of_releases (hp : p.Counted) (hq : p.Releases q) : q.Counted := by
  intro event
  obtain ⟨hle, hcount⟩ := hq event
  rw [hcount, hp event, Nat.sub_sub_self hle]

theorem update {u : Component → Component} (hp : p.Counted)
    (hu : ∀ c, (u c).behaviors = c.behaviors) : (p.update h u).Counted :=
  hp.of_eq rfl (census_update hu p h)

theorem withBehavior (hp : p.Counted) (hc : p.component? h = some c) (b : Behavior) :
    (p.withBehavior h b).Counted := by
  intro event
  have hoff : ∀ g, g ≠ h → ((p.withBehavior h b).component? g).map Component.behaviors =
      (p.component? g).map Component.behaviors := by
    intro g hg
    rw [component?_withBehavior, if_neg hg]
  have hnew : (p.withBehavior h b).tallyAt event h =
      c.tally event + if b.delegates event then 1 else 0 := by
    rw [tallyAt, component?_withBehavior, if_pos rfl, hc]
    exact List.countP_append.trans (congrArg _ List.countP_singleton)
  have hcensus := census_add_tallyAt (Array.size_modify ..) hoff event
  rw [tallyAt_of_live hc, hnew] at hcensus
  rw [count_withBehavior, hp event]
  omega

theorem withoutBehavior {index : Nat} {b : Behavior} (hp : p.Counted) (hc : p.component? h = some c)
    (hb : c.behaviors[index]? = some b) : (p.withoutBehavior h index b).Counted := by
  intro event
  have hoff : ∀ g, g ≠ h → ((p.withoutBehavior h index b).component? g).map Component.behaviors =
      (p.component? g).map Component.behaviors := by
    intro g hg
    rw [component?_withoutBehavior, if_neg hg]
  have hold : c.tally event = (p.withoutBehavior h index b).tallyAt event h +
      if b.delegates event then 1 else 0 := by
    obtain ⟨hlt, rfl⟩ := List.getElem?_eq_some_iff.1 hb
    have hperm := List.getElem_cons_eraseIdx_perm hlt
    rw [tallyAt, component?_withoutBehavior, if_pos rfl, hc, Component.tally, ← hperm.countP_eq,
      List.countP_cons]
    rfl
  have hcensus := census_add_tallyAt (Array.size_modify ..) hoff event
  rw [tallyAt_of_live hc, hold] at hcensus
  rw [count_withoutBehavior, hp event]
  omega

theorem of_step (hp : p.Counted) (hs : Step p q) : q.Counted := by
  cases hs with
  | stay => exact hp
  | grow _ _ _ => exact hp.of_eq rfl (census_grow p _ _)
  | @cut h c _ _ => exact hp.of_releases (.cut p h c.parent)
  | attach hc _ => exact hp.withBehavior hc _
  | detach hc hb => exact hp.withoutBehavior hc hb
  | enabled h b => exact hp.update fun _ => rfl
  | visible h b => exact hp.update fun _ => rfl
  | output h b => exact hp.update fun _ => rfl
  | markupId _ => exact hp.update fun _ => rfl
  | parameters ps => exact hp.of_eq rfl fun _ => rfl
  | metadata m => exact hp.of_eq rfl fun _ => rfl

end Counted

/-- Without changes by hand the registry counts exactly the delegators that are there. -/
theorem ReachableBy.counted {allowed : Operation → Prop} (hp : ReachableBy allowed p)
    (hcounted : ∀ f, ¬ allowed (.changeRegistry f)) : p.Counted := by
  refine hp.induction (fun id ps event => rfl) (fun _ hs hp => hp.of_step hs) ?_
  intro p f hf
  exact absurd hf (hcounted f)

section

variable {R : Registry → Prop}

theorem delegations_discard (hunregister : ∀ r event, R r → R (r.unregister event))
    (hp : R p.delegations) (h : Handle) : R (p.discard h).delegations := by
  cases hc : p.component? h with
  | none =>
      rw [discard, hc]
      exact hp
  | some c =>
      rw [discard, hc]
      exact List.foldlRecOn c.delegators _ hp fun r hr d _ => hunregister r d.2.event hr

theorem delegations_cut (hunregister : ∀ r event, R r → R (r.unregister event))
    (hp : R p.delegations) (h : Handle) (above : Option Handle) :
    R (p.cut h above).delegations := by
  have hprune : R (p.prune h).delegations :=
    List.foldlRecOn (motive := fun q : Page => R q.delegations) (p.subtree h) discard hp
      fun _ hq k _ => delegations_discard hunregister hq k
  cases above with
  | none => exact hprune
  | some g => exact hprune

/-- What registering and unregistering keep, a step keeps. -/
theorem Step.delegations_induction (hs : Step p q)
    (hregister : ∀ r event, R r → R (r.register event))
    (hunregister : ∀ r event, R r → R (r.unregister event)) (hp : R p.delegations) :
    R q.delegations := by
  cases hs with
  | cut _ _ => exact delegations_cut hunregister hp _ _
  | @attach h c b _ _ =>
      cases b with
      | listener l => exact hp
      | delegator d => exact hregister _ d.event hp
  | @detach h c index b _ _ =>
      cases b with
      | listener l => exact hp
      | delegator d => exact hunregister _ d.event hp
  | stay => exact hp
  | grow _ _ _ => exact hp
  | enabled h b => exact hp
  | visible h b => exact hp
  | output h b => exact hp
  | markupId _ => exact hp
  | parameters ps => exact hp
  | metadata m => exact hp

end

theorem ReachableBy.isTight {allowed : Operation → Prop} (hp : ReachableBy allowed p)
    (hcounted : ∀ f, ¬ allowed (.changeRegistry f)) : p.delegations.IsTight := by
  refine hp.induction (P := fun p => p.delegations.IsTight) ?_ ?_ ?_
  · intro id ps
    exact Registry.isTight_empty
  · intro p q _ hs hp
    exact hs.delegations_induction (fun _ event hr => hr.register event)
      (fun _ event hr => hr.unregister event) hp
  · intro p f hf
    exact absurd hf (hcounted f)

/-- The registry is the census: it has an entry for each event that some delegator on the page
handles, with the number of these delegators, and no other entries. -/
theorem ReachableBy.registry_eq_census (hp : ReachableBy Operation.KeepsCount p) :
    (∀ event, p.delegations.count event = p.census event) ∧
      (p.delegations.entries.map (·.1)).Nodup ∧
      ∀ event n, (event, n) ∈ p.delegations.entries ↔ n = p.census event ∧ 0 < n := by
  have hcounted : p.Counted := hp.counted fun _ hf => hf
  have htight : p.delegations.IsTight := hp.isTight fun _ hf => hf
  refine ⟨hcounted, htight.nodup, ?_⟩
  intro event n
  rw [htight.mem_entries_iff, hcounted event]

/-- The form takes two of the three delegators along, and no component has the handle 9. -/
theorem sample_registry_eq_census :
    let p := [Operation.attach 2 (.delegator ⟨"click"⟩) ⟨"click", rfl⟩,
      .attach root (.delegator ⟨"click"⟩) ⟨"click", rfl⟩,
      .attach 9 (.delegator ⟨"input"⟩) ⟨"input", rfl⟩,
      .removeComponent 1].foldl Operation.run sample
    p.delegations.entries = [("click", 1)] ∧ p.census "click" = 1 ∧ p.census "input" = 0 := by
  intro p
  have hp : ReachableBy Operation.KeepsCount p := by
    refine ReachableBy.foldl sample_keepsCount ?_
    simp [Operation.KeepsCount]
  have hentries : p.delegations.entries = [("click", 1)] := by decide +kernel
  obtain ⟨hcount, -, hmem⟩ := hp.registry_eq_census
  refine ⟨hentries, ?_, ?_⟩
  · have hclick : ("click", 1) ∈ p.delegations.entries := hentries ▸ List.mem_singleton_self _
    exact ((hmem "click" 1).1 hclick).1.symm
  · rw [← hcount, Registry.count, hentries]
    rfl

end Page

end PageListeners
