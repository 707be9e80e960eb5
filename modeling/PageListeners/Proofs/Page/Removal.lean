import PageListeners.Proofs.Page.Census
import PageListeners.Proofs.Page.Handles

/-!
# A subtree leaves no trace

Operations on the components of a subtree do not show outside of it. New components come into the
subtree, and the components outside stay as they are. So when the root of a subtree is removed, the
page is again what it was before that component was added. Only the slots that were given out stay
given out, and the numbers of generated markup ids stay used.
-/

namespace PageListeners

namespace Operation

def target? : Operation → Option Handle
  | addComponent parent _ => some parent
  | removeComponent h => some h
  | attach h _ _ => some h
  | detach h _ => some h
  | setEnabled h _ => some h
  | setVisible h _ => some h
  | setOutputMarkupId h _ => some h
  | setMarkupId h _ => some h
  | setParameters _ => none
  | dispatch _ _ => none
  | changeMetadata _ => none
  | changeRegistry _ => none

/-- An operation on the component `a` or on one below it, or a vain one on a handle that is not
live, but not the removal of `a` itself. -/
def Within (p : Page) (a : Handle) (op : Operation) : Prop :=
  (∃ h, op.target? = some h ∧ (p.InSubtree h a ∨ p.component? h = none)) ∧ op ≠ removeComponent a

theorem keepsCount_of_target? {op : Operation} {h : Handle} (htarget : op.target? = some h) :
    op.KeepsCount := by
  cases op with
  | changeRegistry f => cases htarget
  | _ => trivial

end Operation

namespace Page

variable {p q r : Page} {a g h parent : Handle} {c d : Component} {id : String} {op : Operation}

inductive EditedWithin (a : Handle) (p : Page) : Page → Prop where
  | start : EditedWithin a p p
  | step {q : Page} {op : Operation} (hq : EditedWithin a p q) (ho : op.Within q a) :
    EditedWithin a p (op.run q)

def particulars (p : Page) : Nat × Metadata × Parameters :=
  (p.id, p.metadata, p.parameters)

structure KeptOutside (a : Handle) (p q : Page) : Prop where
  succeeds : Succeeds p q
  live : ∃ c, q.component? a = some c
  particulars_eq : q.particulars = p.particulars
  outside : ∀ {g}, g < p.slots.size → ¬ p.InSubtree g a → q.component? g = p.component? g
  /-- The components that are new. -/
  inside : ∀ {g d}, p.slots.size ≤ g → q.component? g = some d → q.InSubtree g a

theorem run_of_dead (htarget : op.target? = some h) (hdead : p.component? h = none) :
    op.run p = p := by
  have hchange : ∀ f,
      (Edit.change h f).apply p = (.error (.componentNotFound (.component h)), p) := by
    intro f
    rw [Edit.apply_change, hdead]
  cases op with
  | addComponent parent id =>
      cases htarget
      rw [Operation.run, Edit.apply_addComponent]
      cases hf : p.additionFault? h id with
      | some e => rfl
      | none =>
          obtain ⟨-, c, hc, -⟩ := additionFault?_eq_none_iff.1 hf
          rw [hdead] at hc
          cases hc
  | removeComponent k =>
      cases htarget
      rw [Operation.run]
      by_cases hroot : h = root
      · rw [hroot, Edit.apply_removeComponent_root]
      · rw [Edit.apply_removeComponent_dead p hroot hdead]
  | attach k b named =>
      cases htarget
      rw [Operation.run, Edit.apply_attach, hdead]
  | detach k index =>
      cases htarget
      rw [Operation.run, Edit.apply_detach, hdead]
  | setEnabled k enabled =>
      cases htarget
      exact congrArg Prod.snd (hchange _)
  | setVisible k visible =>
      cases htarget
      exact congrArg Prod.snd (hchange _)
  | setOutputMarkupId k output =>
      cases htarget
      exact congrArg Prod.snd (hchange _)
  | setMarkupId k markupId =>
      cases htarget
      rw [Operation.run, Edit.apply_setMarkupId]
      cases hf : p.markupIdFault? h markupId with
      | some e => rfl
      | none =>
          obtain ⟨-, hlive, -⟩ := markupIdFault?_eq_none_iff.1 hf
          rw [isLive, hdead] at hlive
          cases hlive
  | _ => cases htarget

theorem particulars_cut (p : Page) (h : Handle) (above : Option Handle) :
    (p.cut h above).particulars = p.particulars := by
  have hdiscard : ∀ (q : Page) (k : Handle), (q.discard k).particulars = q.particulars := by
    intro q k
    unfold discard
    split <;> rfl
  have hprune : (p.prune h).particulars = p.particulars :=
    List.foldlRecOn (motive := fun q : Page => q.particulars = p.particulars) (p.subtree h) discard
      rfl fun q hq k _ => (hdiscard q k).trans hq
  cases above with
  | none => exact hprune
  | some k => exact hprune

namespace KeptOutside

theorem refl (ha : p.component? a = some c) : KeptOutside a p p where
  succeeds := .refl p
  live := ⟨c, ha⟩
  particulars_eq := rfl
  outside _ _ := rfl
  inside hge hd := absurd (lt_size_of_live hd) (Nat.not_lt.2 hge)

theorem trans (hpq : KeptOutside a p q) (hqr : KeptOutside a q r) (hq : q.IsTree)
    (hr : r.IsTree) : KeptOutside a p r where
  succeeds := hpq.succeeds.trans hqr.succeeds
  live := hqr.live
  particulars_eq := hqr.particulars_eq.trans hpq.particulars_eq
  outside := by
    intro g hlt hout
    have hstill : ¬ q.InSubtree g a := by
      intro hin
      obtain ⟨c, ha⟩ := hpq.live
      obtain ⟨d, hd⟩ := live_of_inSubtree ha hin
      exact hout ((hpq.succeeds.inSubtree_iff hq hlt hd).1 hin)
    rw [hqr.outside (Nat.lt_of_lt_of_le hlt hpq.succeeds.size_le) hstill, hpq.outside hlt hout]
  inside := by
    intro g e hge he
    by_cases hlt : g < q.slots.size
    · obtain ⟨d, hd, -⟩ := hqr.succeeds.origin hlt he
      exact (hqr.succeeds.inSubtree_iff hr hlt he).2 (hpq.inside hge hd)
    · exact hqr.inside (Nat.le_of_not_lt hlt) he

/-- An edit of a single component. -/
theorem of_edit {f : Component → Component} (hpq : Succeeds p q) (hin : p.InSubtree h a)
    (ha : p.component? a = some c) (hsize : q.slots.size = p.slots.size)
    (hparticulars : q.particulars = p.particulars)
    (hq : ∀ g, q.component? g = if g = h then (p.component? h).map f else p.component? g) :
    KeptOutside a p q where
  succeeds := hpq
  live := by
    rw [hq]
    by_cases hah : a = h
    · rw [if_pos hah, ← hah, ha]
      exact ⟨_, rfl⟩
    · rw [if_neg hah]
      exact ⟨c, ha⟩
  particulars_eq := hparticulars
  outside := by
    intro g _ hout
    have hne : g ≠ h := by
      rintro rfl
      exact hout hin
    rw [hq, if_neg hne]
  inside := by
    intro g d hge hd
    exact absurd (lt_size_of_live hd) (hsize ▸ Nat.not_lt.2 hge)

theorem update {f : Component → Component} (hpq : Succeeds p (p.update h f))
    (hin : p.InSubtree h a) (ha : p.component? a = some c) : KeptOutside a p (p.update h f) :=
  of_edit hpq hin ha (Array.size_modify ..) rfl (component?_update p h f)

theorem grow (hpq : Succeeds p (p.grow parent id)) (hq : (p.grow parent id).IsTree)
    (hin : p.InSubtree parent a) (ha : p.component? a = some c)
    (hd : p.component? parent = some d) : KeptOutside a p (p.grow parent id) where
  succeeds := hpq
  live := by
    obtain ⟨e, he, -⟩ := exists_component_grow hd id ha
    exact ⟨e, he⟩
  particulars_eq := rfl
  outside := by
    intro g hlt hout
    have hne : g ≠ parent := by
      rintro rfl
      exact hout hin
    rw [component?_grow hd, if_neg (Nat.ne_of_lt hlt), if_neg hne]
  inside := by
    intro g e hge he
    rcases grow_cases hd he with ⟨rfl, rfl⟩ | ⟨f, hf, -⟩
    · -- the way up from the new component leads through its parent
      obtain ⟨e', he', -⟩ := exists_component_grow hd id hd
      exact Relation.ReflTransGen.head (parent?_eq_some.2 ⟨_, he, rfl⟩)
        ((hpq.inSubtree_iff hq (lt_size_of_live hd) he').2 hin)
    · exact absurd (lt_size_of_live hf) (Nat.not_lt.2 hge)

theorem cut (ht : p.IsTree) (hin : p.InSubtree h a) (hne : h ≠ a) (ha : p.component? a = some c)
    (hd : p.component? h = some d) : KeptOutside a p (p.cut h d.parent) where
  succeeds := .cut p h _
  live := by
    have hstays : ¬ p.InSubtree a h := fun hah =>
      hne (Nat.le_antisymm (ht.le_of_inSubtree hah) (ht.le_of_inSubtree hin))
    obtain ⟨e, he, -⟩ := ht.exists_component_cut hd hstays ha
    exact ⟨e, he⟩
  particulars_eq := particulars_cut ..
  outside := by
    intro g _ hout
    have hstays := ht.component?_prune hd fun hgh => hout (hgh.trans hin)
    obtain rfl | ⟨k, hk, hka⟩ := inSubtree_iff_eq_or_parent.1 hin
    · exact absurd rfl hne
    · have hgk : g ≠ k := by
        rintro rfl
        exact hout hka
      obtain ⟨d', hd', hparent⟩ := parent?_eq_some.1 hk
      rw [hd] at hd'
      cases hd'
      rw [hparent, Page.cut, component?_update, if_neg hgk, hstays]
  inside := by
    intro g e hge he
    exact absurd (lt_size_of_live he) (size_cut p h _ ▸ Nat.not_lt.2 hge)

end KeptOutside

theorem IsTree.keptOutside_run (ht : p.IsTree) (ha : p.component? a = some c)
    (ho : op.Within p a) : KeptOutside a p (op.run p) := by
  obtain ⟨⟨h, htarget, hin | hdead⟩, hne⟩ := ho
  · obtain ⟨d, hd⟩ := live_of_inSubtree ha hin
    have hlater := ht.succeeds_run op
    have hchange : ∀ f, ((Edit.change h f).apply p).2 = p.update h f := by
      intro f
      rw [Edit.apply_change, hd]
    cases op with
    | addComponent parent id =>
        cases htarget
        rw [Operation.run, Edit.apply_addComponent] at hlater ⊢
        cases hf : p.additionFault? h id with
        | some e => exact .refl ha
        | none =>
            obtain ⟨hid, d', hd', hfree⟩ := additionFault?_eq_none_iff.1 hf
            rw [hf] at hlater
            exact .grow hlater (ht.grow hd' hfree hid) hin ha hd'
    | removeComponent k =>
        cases htarget
        rw [Operation.run]
        rcases ht.apply_removeComponent_cases h with ⟨e, he⟩ | ⟨d', -, hd', hcut⟩
        · rw [he]
          exact .refl ha
        · rw [hcut]
          exact .cut ht hin (fun he => hne (congrArg _ he)) ha hd'
    | attach k b named =>
        cases htarget
        rw [Operation.run, Edit.apply_attach, hd] at hlater ⊢
        exact .of_edit hlater hin ha (Array.size_modify ..) rfl (component?_withBehavior p h b)
    | detach k index =>
        cases htarget
        rw [Operation.run, Edit.apply_detach, hd] at hlater ⊢
        cases hb : d.behaviors[index]? with
        | none => simpa only [hb] using .refl ha
        | some b =>
            simp only [hb] at hlater ⊢
            exact .of_edit hlater hin ha (Array.size_modify ..) rfl
              (component?_withoutBehavior p h index b)
    | setEnabled k enabled =>
        cases htarget
        rw [Operation.run, Edit.setEnabled, hchange] at hlater ⊢
        exact .update hlater hin ha
    | setVisible k visible =>
        cases htarget
        rw [Operation.run, Edit.setVisible, hchange] at hlater ⊢
        exact .update hlater hin ha
    | setOutputMarkupId k output =>
        cases htarget
        rw [Operation.run, Edit.setOutputMarkupId, hchange] at hlater ⊢
        exact .update hlater hin ha
    | setMarkupId k markupId =>
        cases htarget
        rw [Operation.run, Edit.apply_setMarkupId] at hlater ⊢
        cases hf : p.markupIdFault? h markupId with
        | some e => exact .refl ha
        | none =>
            rw [hf] at hlater
            exact .update hlater hin ha
    | _ => cases htarget
  · rw [run_of_dead htarget hdead]
    exact .refl ha

theorem EditedWithin.reachable (hr : EditedWithin a p r)
    (hp : ReachableBy Operation.KeepsCount p) : ReachableBy Operation.KeepsCount r := by
  induction hr with
  | start => exact hp
  | step _ ho ih =>
      obtain ⟨⟨h, htarget, -⟩, -⟩ := ho
      exact ih.step (Operation.keepsCount_of_target? htarget)

theorem EditedWithin.keptOutside (hr : EditedWithin a p r)
    (hp : ReachableBy Operation.KeepsCount p) (ha : p.component? a = some c) :
    KeptOutside a p r := by
  induction hr with
  | start => exact .refl ha
  | @step q op hq ho ih =>
      have hbefore := (hq.reachable hp).isTree
      obtain ⟨d, hd⟩ := ih.live
      exact ih.trans (hbefore.keptOutside_run hd ho) hbefore
        (EditedWithin.step hq ho |>.reachable hp).isTree

/-- The slots show the components, but for the empty ones at the end. -/
theorem slots_eq_of_component?_eq (hsize : p.slots.size ≤ q.slots.size)
    (hsame : ∀ h, q.component? h = p.component? h) :
    q.slots = p.slots ++ Array.replicate (q.slots.size - p.slots.size) none := by
  have hslot : ∀ {r : Page} {h : Handle} (hlt : h < r.slots.size),
      r.component? h = r.slots[h] := by
    intro r h hlt
    rw [component?, Array.getElem?_eq_getElem hlt]
    rfl
  apply Array.ext
  · rw [Array.size_append, Array.size_replicate, Nat.add_sub_cancel' hsize]
  · intro h hq hlt
    rw [← hslot hq, hsame, Array.getElem_append]
    split
    · next hp => exact hslot hp
    · next hp =>
      rw [Array.getElem_replicate, component?, Array.getElem?_eq_none (Nat.le_of_not_lt hp)]
      rfl

theorem IsTree.filter_children_grow (ht : p.IsTree) (hd : p.component? parent = some d) :
    (d.children ++ [p.slots.size]).filter (· ≠ p.slots.size) = d.children := by
  rw [List.filter_append, List.filter_eq_self.2]
  · simp
  · intro k hk
    obtain ⟨e, he, -⟩ := ht.parent_of_child hd k hk
    rw [decide_eq_true_iff]
    exact Nat.ne_of_lt (lt_size_of_live he)

/-- The removal of a component that was added takes back everything that happened in its subtree. -/
theorem KeptOutside.component?_cut (hkept : KeptOutside p.slots.size (p.grow parent id) r)
    (ht : p.IsTree) (hq : (p.grow parent id).IsTree) (hr : r.IsTree)
    (hd : p.component? parent = some d) (hc : r.component? p.slots.size = some c)
    (hparent : c.parent = some parent) (h : Handle) :
    (r.cut p.slots.size c.parent).component? h = p.component? h := by
  have hsize : (p.grow parent id).slots.size = p.slots.size + 1 := by
    rw [Page.grow, Page.update, Array.size_modify, Array.size_push]
  have hbelow : ∀ k, k < p.slots.size →
      (r.prune p.slots.size).component? k = (p.grow parent id).component? k := by
    intro k hk
    rw [hr.component?_prune hc fun hin => Nat.not_le.2 hk (hr.le_of_inSubtree hin)]
    apply hkept.outside (hsize ▸ Nat.lt_succ_of_lt hk)
    exact fun hin => Nat.not_le.2 hk (hq.le_of_inSubtree hin)
  by_cases hlt : h < p.slots.size
  · rw [hparent, Page.cut, component?_update]
    by_cases hh : h = parent
    · rw [if_pos hh, ← hh, hbelow h hlt, component?_grow hd, if_neg (Nat.ne_of_lt hlt), if_pos hh,
        hh, hd]
      exact congrArg some (congrArg (fun hs => { d with children := hs })
        (ht.filter_children_grow hd))
    · rw [if_neg hh, hbelow h hlt, component?_grow hd, if_neg (Nat.ne_of_lt hlt), if_neg hh]
  · have hge : p.slots.size ≤ h := Nat.le_of_not_lt hlt
    have hnew : p.component? h = none := by
      rw [component?, Array.getElem?_eq_none hge]
      rfl
    rw [hnew, Option.eq_none_iff_forall_ne_some]
    intro e he
    obtain ⟨hout, d', hd', -⟩ := hr.cut_cases hc he
    -- a component younger than the removed one came into its subtree
    rcases Nat.eq_or_lt_of_le hge with rfl | hgt
    · exact hout Relation.ReflTransGen.refl
    · exact hout (hkept.inside (hsize ▸ hgt) hd')

/-- A page with the components of another one has its slots, and empty ones behind them. -/
theorem eq_of_component?_eq (hparticulars : q.particulars = p.particulars)
    (hsize : p.slots.size ≤ q.slots.size) (hsame : ∀ h, q.component? h = p.component? h) :
    q = { p with
      slots := p.slots ++ Array.replicate (q.slots.size - p.slots.size) none
      nextNumber := q.nextNumber
      delegations := q.delegations } := by
  obtain ⟨hid, hrest⟩ := Prod.mk.inj hparticulars
  obtain ⟨hmetadata, hparameters⟩ := Prod.mk.inj hrest
  rw [← slots_eq_of_component?_eq hsize hsame, ← hid, ← hmetadata, ← hparameters]

/-- Pages with the same components have the same entries in their registries. -/
theorem perm_entries_of_component?_eq (hp : ReachableBy Operation.KeepsCount p)
    (hq : ReachableBy Operation.KeepsCount q) (hsize : p.slots.size ≤ q.slots.size)
    (hsame : ∀ h, q.component? h = p.component? h) :
    q.delegations.entries.Perm p.delegations.entries := by
  refine (hp.isTight fun _ hf => hf).perm_of_count_eq (hq.isTight fun _ hf => hf) ?_
  intro event
  rw [hq.counted (fun _ hf => hf) event, hp.counted (fun _ hf => hf) event, census_eq_sum,
    census_eq_sum, slots_eq_of_component?_eq hsize hsame]
  simp

/-- A component is added, anything happens in its subtree, and it is removed again: then the page is
as it was before. It has some empty slots more, and other numbers for markup ids. -/
theorem ReachableBy.removeComponent_undoes (hp : ReachableBy Operation.KeepsCount p)
    (hadd : (Edit.addComponent parent id).apply p = (.ok a, q)) (hr : EditedWithin a q r) :
    ∃ (n m : Nat) (registry : Registry),
      (Edit.removeComponent a).apply r =
        (.ok ⟨⟩, { p with
          slots := p.slots ++ Array.replicate n none, nextNumber := m, delegations := registry }) ∧
      (registry.entries.map (·.1)).Nodup ∧ registry.entries.Perm p.delegations.entries := by
  have hq : ReachableBy Operation.KeepsCount q := by
    have hrun : (Operation.addComponent parent id).run p = q := congrArg Prod.snd hadd
    exact hrun ▸ hp.step trivial
  have hlater : ReachableBy Operation.KeepsCount r := hr.reachable hq
  obtain ⟨-, b, hb, -, hbparent⟩ := component?_of_addComponent hadd
  obtain ⟨rfl, rfl, -, d, hd, -⟩ := addComponent_eq_ok hadd
  have hkept : KeptOutside p.slots.size (p.grow parent id) r := hr.keptOutside hq hb
  obtain ⟨c, hc⟩ := hkept.live
  have hparent : c.parent = some parent := by
    have hplace := hkept.succeeds.parent?_eq (lt_size_of_live hb) hc
    rwa [parent?, parent?, hc, hb, Option.bind_some, Option.bind_some, hbparent] at hplace
  have hne : p.slots.size ≠ root := Nat.ne_zero_of_lt (lt_size_of_live hd)
  have hremove := hlater.isTree.apply_removeComponent hne hc
  have hs : ReachableBy Operation.KeepsCount (r.cut p.slots.size c.parent) := by
    have hrun : (Operation.removeComponent p.slots.size).run r = r.cut p.slots.size c.parent :=
      congrArg Prod.snd hremove
    exact hrun ▸ hlater.step trivial
  have hsize : p.slots.size ≤ (r.cut p.slots.size c.parent).slots.size := by
    rw [size_cut]
    exact Nat.le_trans (Succeeds.grow hd id).size_le hkept.succeeds.size_le
  have hsame := hkept.component?_cut hp.isTree hq.isTree hlater.isTree hd hc hparent
  refine ⟨_, _, _, hremove.trans (congrArg (Prod.mk _) (eq_of_component?_eq ?_ hsize hsame)),
    (hs.isTight fun _ hf => hf).nodup, perm_entries_of_component?_eq hp hs hsize hsame⟩
  exact (particulars_cut ..).trans hkept.particulars_eq

/-- A panel with a row in it comes and goes. The row goes first, and is asked for once more. -/
theorem sample_removeComponent_undoes :
    ∃ q r, (Edit.addComponent 1 "panel").apply sample = (.ok 3, q) ∧
      r = [Operation.addComponent 3 "row", .attach 4 (.delegator ⟨"click"⟩) ⟨"click", rfl⟩,
        .attach 3 (.delegator ⟨"input"⟩) ⟨"input", rfl⟩, .removeComponent 4,
        .setVisible 4 false].foldl Operation.run q ∧
      r.delegations.entries = [("click", 1), ("input", 1)] ∧
      ∃ (n m : Nat) (registry : Registry),
        (Edit.removeComponent 3).apply r =
          (.ok ⟨⟩, { sample with
            slots := sample.slots ++ Array.replicate n none, nextNumber := m,
            delegations := registry }) ∧
        registry.entries.Perm sample.delegations.entries := by
  let q := (Operation.addComponent 1 "panel").run sample
  have hadd : (Edit.addComponent 1 "panel").apply sample = (.ok 3, q) := rfl
  let r₁ := (Operation.addComponent 3 "row").run q
  let r₂ := (Operation.attach 4 (.delegator ⟨"click"⟩) ⟨"click", rfl⟩).run r₁
  let r₃ := (Operation.attach 3 (.delegator ⟨"input"⟩) ⟨"input", rfl⟩).run r₂
  let r₄ := (Operation.removeComponent 4).run r₃
  have hrow : ∀ r : Page, r.parent? 4 = some 3 → r.InSubtree 4 3 :=
    fun r hr => Relation.ReflTransGen.single hr
  have hedits : EditedWithin 3 q ((Operation.setVisible 4 false).run r₄) := by
    have h₁ : EditedWithin 3 q r₁ := .step .start ⟨⟨3, rfl, Or.inl .refl⟩, nofun⟩
    have h₂ : EditedWithin 3 q r₂ :=
      .step h₁ ⟨⟨4, rfl, Or.inl (hrow r₁ (by decide +kernel))⟩, nofun⟩
    have h₃ : EditedWithin 3 q r₃ := .step h₂ ⟨⟨3, rfl, Or.inl .refl⟩, nofun⟩
    have h₄ : EditedWithin 3 q r₄ :=
      .step h₃ ⟨⟨4, rfl, Or.inl (hrow r₃ (by decide +kernel))⟩, by simp⟩
    have hgone : r₄.component? 4 = none := by
      rw [← Option.isNone_iff_eq_none]
      decide +kernel
    exact .step h₄ ⟨⟨4, rfl, Or.inr hgone⟩, nofun⟩
  obtain ⟨n, m, registry, hremove, -, hperm⟩ :=
    sample_keepsCount.removeComponent_undoes hadd hedits
  exact ⟨q, _, hadd, rfl, by decide +kernel, n, m, registry, hremove, hperm⟩

end Page

end PageListeners
