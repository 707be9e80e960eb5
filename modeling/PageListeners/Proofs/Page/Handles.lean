import PageListeners.Proofs.Page.Census
import PageListeners.Proofs.Page.Namespace

/-!
# Handles in the course of time

Slots are only added, so the number of slots tells the handles that were given out. A step fills no
slot that was there before and moves no component, and so a later page has at a handle given out
before either the component that it was given to, in the same place, or none. The way up from a
live component leads through handles older than its own, so it is the same in both pages.
-/

namespace PageListeners

def Component.origin (c : Component) : String × Option Handle :=
  (c.id, c.parent)

namespace Page

variable {p q r : Page} {g h : Handle} {c d : Component}

/-- No handle that `p` has given out has come to mean something else in `q`. -/
structure Succeeds (p q : Page) : Prop where
  size_le : p.slots.size ≤ q.slots.size
  origin : ∀ {h d}, h < p.slots.size → q.component? h = some d →
    ∃ c, p.component? h = some c ∧ c.origin = d.origin

namespace Succeeds

theorem refl (p : Page) : Succeeds p p :=
  ⟨Nat.le_refl _, fun _ hd => ⟨_, hd, rfl⟩⟩

theorem trans (hpq : Succeeds p q) (hqr : Succeeds q r) : Succeeds p r where
  size_le := Nat.le_trans hpq.size_le hqr.size_le
  origin := by
    intro h e hlt he
    obtain ⟨d, hd, hde⟩ := hqr.origin (Nat.lt_of_lt_of_le hlt hpq.size_le) he
    obtain ⟨c, hc, hcd⟩ := hpq.origin hlt hd
    exact ⟨c, hc, hcd.trans hde⟩

theorem of_origins (hsize : q.slots.size = p.slots.size)
    (hpq : ∀ h, (q.component? h).map Component.origin = (p.component? h).map Component.origin) :
    Succeeds p q where
  size_le := Nat.le_of_eq hsize.symm
  origin := by
    intro h d _ hd
    have hh := hpq h
    rw [hd, Option.map_some] at hh
    exact Option.map_eq_some_iff.1 hh.symm

theorem update (p : Page) (h : Handle) {u : Component → Component}
    (hu : ∀ c, (u c).origin = c.origin) : Succeeds p (p.update h u) :=
  of_origins (Array.size_modify ..) (map_component?_update hu p h)

theorem of_slots_eq (hs : q.slots = p.slots) : Succeeds p q :=
  of_origins (congrArg Array.size hs) fun h => by rw [component?_congr hs h]

theorem withBehavior (p : Page) (h : Handle) (b : Behavior) : Succeeds p (p.withBehavior h b) := by
  have hcounted : Succeeds p { p with delegations := b.enter p.delegations } := of_slots_eq rfl
  exact hcounted.trans (update _ h fun _ => rfl)

theorem withoutBehavior (p : Page) (h : Handle) (index : Nat) (b : Behavior) :
    Succeeds p (p.withoutBehavior h index b) := by
  have herased : Succeeds p
      (p.update h fun c => { c with behaviors := c.behaviors.eraseIdx index }) :=
    update p h fun _ => rfl
  exact herased.trans (of_slots_eq rfl)

theorem grow {parent : Handle} (hc : p.component? parent = some c) (id : String) :
    Succeeds p (p.grow parent id) where
  size_le := by
    rw [Page.grow, Page.update, Array.size_modify, Array.size_push]
    exact Nat.le_succ _
  origin := by
    intro h d hlt hd
    have hh := map_component?_grow (f := Component.origin) (fun _ _ => rfl) hc id h
    rw [hd, if_neg (Nat.ne_of_lt hlt)] at hh
    exact Option.map_eq_some_iff.1 hh.symm

end Succeeds

theorem size_prune (p : Page) (h : Handle) : (p.prune h).slots.size = p.slots.size := by
  rw [prune]
  induction p.subtree h generalizing p with
  | nil => rfl
  | cons g gs ih => rw [List.foldl_cons, ih, size_discard]

theorem size_cut (p : Page) (h : Handle) (above : Option Handle) :
    (p.cut h above).slots.size = p.slots.size := by
  cases above with
  | none => exact size_prune p h
  | some g => exact (Array.size_modify ..).trans (size_prune p h)

theorem Succeeds.cut (p : Page) (h : Handle) (above : Option Handle) :
    Succeeds p (p.cut h above) where
  size_le := Nat.le_of_eq (size_cut p h above).symm
  origin := by
    intro g d _ hd
    have hg := map_component?_cut (f := Component.origin) (fun _ _ => rfl) p h above g
    rw [hd, Option.map_some] at hg
    split at hg
    · cases hg
    · exact Option.map_eq_some_iff.1 hg.symm

theorem Step.succeeds (hs : Step p q) : Succeeds p q := by
  cases hs with
  | stay => exact .refl p
  | grow hc _ _ => exact .grow hc _
  | cut _ _ => exact .cut p _ _
  | attach _ _ => exact .withBehavior p _ _
  | detach _ _ => exact .withoutBehavior p _ _ _
  | enabled h b => exact .update p h fun _ => rfl
  | visible h b => exact .update p h fun _ => rfl
  | output h b => exact .update p h fun _ => rfl
  | markupId _ => exact .update p _ fun _ => rfl
  | parameters ps => exact .of_slots_eq rfl
  | metadata m => exact .of_slots_eq rfl

theorem IsTree.succeeds_run (ht : p.IsTree) (op : Operation) : Succeeds p (op.run p) := by
  obtain hs | ⟨f, rfl⟩ := ht.step op
  · exact hs.succeeds
  · exact .of_slots_eq rfl

def LeadsTo (p r : Page) : Prop :=
  ∃ ops : List Operation, ops.foldl Operation.run p = r

theorem Reachable.of_leadsTo (hp : p.Reachable) (hr : p.LeadsTo r) : r.Reachable := by
  obtain ⟨ops, rfl⟩ := hr
  exact ReachableBy.foldl hp fun _ _ => trivial

theorem Reachable.succeeds (hp : p.Reachable) (hr : p.LeadsTo r) : Succeeds p r := by
  obtain ⟨ops, rfl⟩ := hr
  induction ops generalizing p with
  | nil => exact .refl p
  | cons op ops ih =>
      have hfirst : (op.run p).Reachable := hp.step trivial
      exact (hp.isTree.succeeds_run op).trans (ih hfirst)

theorem Succeeds.component?_eq_none (hpq : Succeeds p q) (hlt : h < p.slots.size)
    (hc : p.component? h = none) : q.component? h = none := by
  cases hd : q.component? h with
  | none => rfl
  | some d =>
      obtain ⟨c, hlive, -⟩ := hpq.origin hlt hd
      rw [hc] at hlive
      cases hlive

def trail? (p : Page) (h : Handle) : Option (List (Handle × String)) :=
  (p.lineage? h).map (·.map fun e => (e.1, e.2.id))

theorem path?_eq_of_trail? (he : q.trail? h = p.trail? h) : q.path? h = p.path? h := by
  have hpath : ∀ r : Page, r.path? h =
      (r.trail? h).map fun line => joinPath (line.dropLast.map (·.2)).reverse := by
    intro r
    rw [path?, trail?, Option.map_map]
    congr 1
    funext line
    simp [List.map_dropLast, Function.comp_def]
  rw [hpath, hpath, he]

theorem ancestors_eq_of_trail? (he : q.trail? h = p.trail? h) :
    (q.ancestors h).map (·.1) = (p.ancestors h).map (·.1) := by
  have hnamed : (q.ancestors h).map (fun e => (e.1, e.2.id)) =
      (p.ancestors h).map fun e => (e.1, e.2.id) := by
    rw [map_ancestors, map_ancestors]
    exact congrArg (fun line => (line.getD []).tail.dropLast) he
  have hhandles := congrArg (List.map Prod.fst) hnamed
  rwa [List.map_map, List.map_map] at hhandles

theorem live_of_inSubtree {a : Handle} (ha : p.component? a = some c) (hin : p.InSubtree h a) :
    ∃ d, p.component? h = some d := by
  obtain rfl | ⟨g, hg, -⟩ := Relation.ReflTransGen.cases_head hin
  · exact ⟨c, ha⟩
  · obtain ⟨d, hd, -⟩ := parent?_eq_some.1 hg
    exact ⟨d, hd⟩

theorem Succeeds.parent?_eq (hpq : Succeeds p q) (hlt : g < p.slots.size)
    (hd : q.component? g = some d) : q.parent? g = p.parent? g := by
  obtain ⟨c, hc, horigin⟩ := hpq.origin hlt hd
  rw [parent?, parent?, hd, hc]
  exact (Prod.mk.inj horigin).2.symm

/-- A live component of the later page has the same components above it in both. -/
theorem Succeeds.inSubtree_iff (hpq : Succeeds p q) (hq : q.IsTree) (hlt : g < p.slots.size)
    (hd : q.component? g = some d) : q.InSubtree g a ↔ p.InSubtree g a := by
  induction g using Nat.strongRecOn generalizing d with
  | ind g ih =>
    rw [inSubtree_iff_eq_or_parent, inSubtree_iff_eq_or_parent, hpq.parent?_eq hlt hd]
    refine or_congr Iff.rfl (exists_congr fun k => and_congr_right fun hk => ?_)
    rw [← hpq.parent?_eq hlt hd] at hk
    obtain ⟨e, he⟩ := hq.parent_live hk
    have hkg : k < g := by
      obtain ⟨d', hd', hg⟩ := parent?_eq_some.1 hk
      exact hq.parent_lt hd' hg
    exact ih k hkg (Nat.lt_trans hkg hlt) he

theorem Succeeds.trail?_eq (hpq : Succeeds p q) (ht : q.IsTree) (hlt : h < p.slots.size)
    (hd : q.component? h = some d) : q.trail? h = p.trail? h := by
  refine ht.induction (P := fun h _ => h < p.slots.size → q.trail? h = p.trail? h) ?_ ?_ h d hd hlt
  · intro d hd hn hlt
    obtain ⟨c, hc, horigin⟩ := hpq.origin hlt hd
    obtain ⟨hid, hparent⟩ := Prod.mk.inj horigin
    rw [trail?, trail?, lineage?_of_parent_none hd hn,
      lineage?_of_parent_none hc (hparent.trans hn)]
    simp [hid]
  · intro h d g e hd hg _ hgh ih hlt
    obtain ⟨c, hc, horigin⟩ := hpq.origin hlt hd
    obtain ⟨hid, hparent⟩ := Prod.mk.inj horigin
    have hup := ih (Nat.lt_trans hgh hlt)
    have htrail : ∀ {r : Page} {x : Component}, r.component? h = some x → x.parent = some g →
        r.trail? h = (r.trail? g).map ((h, x.id) :: ·) := by
      intro r x hx hxg
      rw [trail?, trail?, lineage?_of_parent_some hx hxg hgh]
      cases r.lineage? g <;> rfl
    rw [htrail hd hg, htrail hc (hparent.trans hg), hup, hid]

theorem Reachable.of_addComponent {parent : Handle} {id : String} (hp : p.Reachable)
    (hadd : (Edit.addComponent parent id).apply p = (.ok h, q)) : q.Reachable := by
  have hrun : ((Operation.addComponent parent id).run p).Reachable := hp.step trivial
  rwa [Operation.run, hadd] at hrun

theorem Reachable.of_removeComponent {a : Handle} (hp : p.Reachable)
    (hremove : (Edit.removeComponent a).apply p = (.ok ⟨⟩, q)) : q.Reachable := by
  have hrun : ((Operation.removeComponent a).run p).Reachable := hp.step trivial
  rwa [Operation.run, hremove] at hrun

theorem component?_of_addComponent {parent : Handle} {id : String}
    (hadd : (Edit.addComponent parent id).apply p = (.ok h, q)) :
    p.component? h = none ∧ ∃ c, q.component? h = some c ∧ c.id = id ∧ c.parent = some parent := by
  obtain ⟨rfl, rfl, -, c, hc, -⟩ := addComponent_eq_ok hadd
  constructor
  · cases hd : p.component? p.slots.size with
    | none => rfl
    | some d => exact absurd (lt_size_of_live hd) (Nat.lt_irrefl _)
  · exact ⟨_, by rw [component?_grow hc, if_pos rfl], rfl, rfl⟩

/-- A removal takes out the subtree, and what it has taken out was there before. -/
theorem IsTree.component?_of_removeComponent {a : Handle} (ht : p.IsTree)
    (hremove : (Edit.removeComponent a).apply p = (.ok ⟨⟩, q)) (hin : p.InSubtree h a) :
    h < q.slots.size ∧ q.component? h = none := by
  obtain ⟨e, he⟩ | ⟨c, -, hc, hcut⟩ := ht.apply_removeComponent_cases a
  · rw [he] at hremove
    cases hremove
  · rw [hcut] at hremove
    cases hremove
    obtain ⟨d, hd⟩ := live_of_inSubtree hc hin
    rw [size_cut]
    exact ⟨lt_size_of_live hd, ht.component?_cut_of_inSubtree hc hin⟩

/-- A handle means one component for ever: a new component gets a handle that no other one has had
or will get; as long as a component is live it has its id, its parent, its path and the components
above it; and the handles that a removal takes out stay without a component. -/
theorem Reachable.handles_stay (hp : p.Reachable) :
    (∀ parent id h q, (Edit.addComponent parent id).apply p = (.ok h, q) →
      p.component? h = none ∧
      (∃ c, q.component? h = some c ∧ c.id = id ∧ c.parent = some parent) ∧
      ∀ r, q.LeadsTo r → ∀ parent' id' h' s,
        (Edit.addComponent parent' id').apply r = (.ok h', s) → h' ≠ h) ∧
    (∀ h c, p.component? h = some c → ∀ r d, p.LeadsTo r → r.component? h = some d →
      d.id = c.id ∧ d.parent = c.parent ∧
      (∃ path, p.path? h = some path ∧ r.path? h = some path) ∧
      (r.ancestors h).map (·.1) = (p.ancestors h).map (·.1)) ∧
    ∀ a q, (Edit.removeComponent a).apply p = (.ok ⟨⟩, q) → ∀ h, p.InSubtree h a →
      ∀ r, q.LeadsTo r → r.component? h = none := by
  refine ⟨?_, ?_, ?_⟩
  · intro parent id h q hadd
    obtain ⟨hfree, c, hc, horigin⟩ := component?_of_addComponent hadd
    refine ⟨hfree, ⟨c, hc, horigin⟩, ?_⟩
    intro r hr parent' id' h' s hagain
    obtain ⟨rfl, -⟩ := addComponent_eq_ok hagain
    have hsize := ((hp.of_addComponent hadd).succeeds hr).size_le
    exact Nat.ne_of_gt (Nat.lt_of_lt_of_le (lt_size_of_live hc) hsize)
  · intro h c hc r d hr hd
    have hlater := hp.succeeds hr
    have hlt := lt_size_of_live hc
    obtain ⟨c', hc', horigin⟩ := hlater.origin hlt hd
    rw [hc] at hc'
    cases hc'
    obtain ⟨hid, hparent⟩ := Prod.mk.inj horigin
    obtain ⟨path, hpath⟩ := hp.isTree.exists_path hc
    have htrail := hlater.trail?_eq (hp.of_leadsTo hr).isTree hlt hd
    exact ⟨hid.symm, hparent.symm, ⟨path, hpath, (path?_eq_of_trail? htrail).trans hpath⟩,
      ancestors_eq_of_trail? htrail⟩
  · intro a q hremove h hin r hr
    obtain ⟨hlt, hgone⟩ := hp.isTree.component?_of_removeComponent hremove hin
    exact ((hp.of_removeComponent hremove).succeeds hr).component?_eq_none hlt hgone

/-- The form gets a second button, which goes with it; the new form gets a new handle. -/
theorem sample_handles_stay :
    ∃ q r, (Edit.addComponent 1 "reset").apply sample = (.ok 3, q) ∧ q.path? 3 = some "form:reset" ∧
      ((Operation.setVisible 1 false).run q).path? 3 = some "form:reset" ∧
      (Edit.removeComponent 1).apply q = (.ok ⟨⟩, r) ∧
      ((Operation.addComponent root "form").run r).component? 3 = none ∧
      ∀ id h s, (Edit.addComponent root id).apply r = (.ok h, s) → h ≠ 3 := by
  have hq : ((Operation.addComponent 1 "reset").run sample).Reachable :=
    sample_reachable.step trivial
  obtain ⟨hnew, -, -⟩ := sample_reachable.handles_stay
  obtain ⟨-, hkept, hremoved⟩ := hq.handles_stay
  obtain ⟨-, ⟨c, hc, -, hg⟩, hfresh⟩ := hnew 1 "reset" 3 _ rfl
  have hin : ((Operation.addComponent 1 "reset").run sample).InSubtree 3 1 :=
    Relation.ReflTransGen.single (parent?_eq_some.2 ⟨c, hc, hg⟩)
  have hpath : ((Operation.addComponent 1 "reset").run sample).path? 3 = some "form:reset" := by
    decide +kernel
  have hstays : ((Operation.setVisible 1 false).run
      ((Operation.addComponent 1 "reset").run sample)).component? 3 = some c := hc
  obtain ⟨-, -, ⟨path, hold, hlater⟩, -⟩ := hkept 3 c hc _ c ⟨[.setVisible 1 false], rfl⟩ hstays
  rw [hpath] at hold
  cases hold
  exact ⟨_, _, rfl, hpath, hlater, rfl,
    hremoved 1 _ rfl 3 hin _ ⟨[.addComponent root "form"], rfl⟩,
    fun id h s hadd => hfresh _ ⟨[.removeComponent 1], rfl⟩ root id h s hadd⟩

end Page

end PageListeners
