import PageListeners.Proofs.Page.Refusals

/-!
# The names of the components

On a reachable page the paths name the live components, each by one text. A new component adds one
name, a component that goes takes all names along that begin with its own, and no other operation
changes what a name stands for.
-/

namespace PageListeners

def childPath (path id : String) : String :=
  if path = "" then id else path ++ ":" ++ id

/-- The path itself, or a text that goes on behind it with a colon. -/
def IsWithin (s path : String) : Prop :=
  s = path ∨ ∃ t, s = path ++ ":" ++ t

def Operation.EditsTree : Operation → Prop
  | addComponent _ _ | removeComponent _ => True
  | _ => False

namespace Page

variable {p q : Page} {g h k parent : Handle} {c d : Component} {id path s : String}

theorem path?_of_dead (hc : p.component? h = none) : p.path? h = none := by
  rw [path?, lineage?_of_dead hc]
  rfl

theorem find?_of_ne_empty (p : Page) (hs : s ≠ "") : p.find? s = p.descend? root (splitPath s) := by
  rw [find?, if_neg hs]

/-- A colon at an end of a text or next to another one leaves an empty piece. -/
theorem empty_mem_splitPath (s t : String) :
    "" ∈ splitPath (":" ++ s) ∧ "" ∈ splitPath (s ++ ":") ∧ "" ∈ splitPath (s ++ "::" ++ t) := by
  have hempty : "" ∈ splitPath "" := by decide
  have hback : "" ∈ splitPath (s ++ ":") := by
    rw [← String.append_empty (s := s ++ ":"), splitPath_append]
    exact List.mem_append_right _ hempty
  have hcolons : "::" = ":" ++ ":" := rfl
  refine ⟨?_, hback, ?_⟩
  · rw [← String.empty_append (s := ":"), splitPath_append]
    exact List.mem_append_left _ hempty
  · rw [hcolons, ← String.append_assoc, splitPath_append]
    exact List.mem_append_left _ hback

theorem joinPath_concat {ids : List String} (hids : ∀ x ∈ ids, x ≠ "") (id : String) :
    joinPath (ids ++ [id]) = childPath (joinPath ids) id := by
  cases ids with
  | nil =>
      rw [List.nil_append, joinPath_singleton]
      rfl
  | cons x ids =>
      rw [joinPath_append (List.cons_ne_nil x ids) (List.cons_ne_nil id []), joinPath_singleton,
        childPath, if_neg (joinPath_ne_empty (hids x List.mem_cons_self) ids)]

theorem childPath_isWithin (hpath : path ≠ "") (hs : IsWithin s path) (id : String) :
    IsWithin (childPath s id) path := by
  rcases hs with rfl | ⟨t, rfl⟩
  · exact Or.inr ⟨id, if_neg hpath⟩
  · refine Or.inr ⟨t ++ ":" ++ id, ?_⟩
    rw [childPath, if_neg (by simp)]
    simp only [String.append_assoc]

namespace IsTree

theorem path?_root (ht : p.IsTree) : p.path? root = some "" := by
  rw [path?_eq_segments?, ht.segments?_root]
  rfl

theorem path?_child (ht : p.IsTree) (hc : p.component? h = some c) (hg : c.parent = some g) :
    p.path? h = (p.path? g).map (childPath · c.id) := by
  obtain ⟨d, hd⟩ := ht.parent_live (parent?_eq_some.2 ⟨c, hc, hg⟩)
  obtain ⟨ids, hids, hall⟩ := ht.exists_segments hd
  rw [path?_eq_segments?, path?_eq_segments?, ht.segments?_child hc hg, hids]
  exact congrArg some (joinPath_concat (fun x hx => (hall x hx).1) c.id)

theorem eq_of_path? (ht : p.IsTree) (hg : p.path? g = some s) (hh : p.path? h = some s) :
    g = h := by
  have hfind := ht.find?_iff_path?.2 hg
  rw [ht.find?_iff_path?.2 hh] at hfind
  exact (Option.some.inj hfind).symm

theorem path_ne_empty (ht : p.IsTree) (hne : h ≠ root) (hpath : p.path? h = some path) :
    path ≠ "" := by
  rintro rfl
  exact hne (ht.eq_of_path? hpath ht.path?_root)

/-- The ids of a path are not empty, so neither is a piece of the text. -/
theorem empty_not_mem_splitPath (ht : p.IsTree) (hs : s ≠ "") (hf : p.find? s = some h) :
    "" ∉ splitPath s := by
  have hpath := ht.find?_iff_path?.1 hf
  obtain ⟨c, hc⟩ := live_of_path? hpath
  obtain ⟨ids, hids, hall⟩ := ht.exists_segments hc
  rw [path?_eq_segments?, hids] at hpath
  cases hpath
  have hne : ids ≠ [] := by
    rintro rfl
    exact hs rfl
  rw [splitPath_joinPath hne fun x hx => (hall x hx).2]
  intro hmem
  exact (hall "" hmem).1 rfl

theorem find?_eq_none_of_empty_mem (ht : p.IsTree) (hs : s ≠ "") (hmem : "" ∈ splitPath s) :
    p.find? s = none := by
  rw [Option.eq_none_iff_forall_ne_some]
  intro h hf
  exact ht.empty_not_mem_splitPath hs hf hmem

theorem inSubtree_of_descend? (ht : p.IsTree) {ids : List String} (hd : p.component? g = some d)
    (hdesc : p.descend? g ids = some h) : p.InSubtree h g := by
  induction ids generalizing g d with
  | nil =>
      cases hdesc
      exact Relation.ReflTransGen.refl
  | cons id ids ih =>
      simp only [descend?, hd] at hdesc
      cases hk : p.childNamed? d id with
      | none => simp [hk] at hdesc
      | some k =>
          simp only [hk] at hdesc
          obtain ⟨e, he, hparent, -⟩ := (ht.childNamed?_eq_some_iff hd).1 hk
          exact (ih he hdesc).tail (parent?_eq_some.2 ⟨e, he, hparent⟩)

/-- What is below a component in the tree is what is below its path as a text. -/
theorem inSubtree_iff_isWithin (ht : p.IsTree) (hne : h ≠ root) (hpath : p.path? h = some path)
    (hs : p.path? g = some s) : p.InSubtree g h ↔ IsWithin s path := by
  have hpathNe : path ≠ "" := ht.path_ne_empty hne hpath
  constructor
  · intro hbelow
    induction hbelow using Relation.ReflTransGen.head_induction_on generalizing s with
    | refl =>
        rw [hpath] at hs
        cases hs
        exact Or.inl rfl
    | head hk _ ih =>
        obtain ⟨c, hc, hparent⟩ := parent?_eq_some.1 hk
        rw [ht.path?_child hc hparent] at hs
        obtain ⟨above, habove, rfl⟩ := Option.map_eq_some_iff.1 hs
        exact childPath_isWithin hpathNe (ih habove) c.id
  · rintro (rfl | ⟨t, rfl⟩)
    · rw [ht.eq_of_path? hs hpath]
      exact Relation.ReflTransGen.refl
    · obtain ⟨c, hc⟩ := live_of_path? hpath
      have hdown := ht.find?_iff_path?.2 hs
      have hfirst := ht.find?_iff_path?.2 hpath
      rw [p.find?_of_ne_empty hpathNe] at hfirst
      rw [p.find?_of_ne_empty (by simp), splitPath_append, descend?_append, hfirst] at hdown
      exact ht.inSubtree_of_descend? hc hdown

/-- Components keep their paths if they and all above them keep their ids and parents. -/
theorem path?_eq_of_kept (ht : p.IsTree) (hq : q.IsTree) {S : Handle → Prop}
    (hup : ∀ {k g}, S k → p.parent? k = some g → S g)
    (hkept : ∀ {g d}, S g → p.component? g = some d →
      ∃ e, q.component? g = some e ∧ e.id = d.id ∧ e.parent = d.parent)
    (hc : p.component? h = some c) (hh : S h) : q.path? h = p.path? h := by
  refine ht.induction (P := fun h _ => S h → q.path? h = p.path? h) ?_ ?_ h c hc hh
  · intro _ _ _ _
    rw [hq.path?_root, ht.path?_root]
  · intro h c g d hc hg _ _ ih hh
    obtain ⟨e, he, hid, hparent⟩ := hkept hh hc
    have hg' : S g := hup hh (parent?_eq_some.2 ⟨c, hc, hg⟩)
    rw [hq.path?_child he (hparent.trans hg), ht.path?_child hc hg, hid, ih hg']

theorem path?_grow (ht : p.IsTree) (hc : p.component? parent = some c)
    (hfree : p.childNamed? c id = none) (hid : FitsPath id) (g : Handle) :
    (p.grow parent id).path? g =
      if g = p.slots.size then (p.path? parent).map (childPath · id) else p.path? g := by
  have hq := ht.grow hc hfree hid
  have hold : ∀ {g d}, p.component? g = some d → (p.grow parent id).path? g = p.path? g := by
    intro g d hd
    refine ht.path?_eq_of_kept hq (S := fun _ => True) (fun _ _ => trivial) ?_ hd trivial
    intro g d _ hd
    obtain ⟨e, he, hid, hparent, -⟩ := exists_component_grow hc id hd
    exact ⟨e, he, hid, hparent⟩
  by_cases hnew : g = p.slots.size
  · have hcomponent : (p.grow parent id).component? g = some (p.newComponent parent id) := by
      rw [component?_grow hc, if_pos hnew]
    rw [if_pos hnew, hq.path?_child hcomponent rfl, hold hc]
    rfl
  · rw [if_neg hnew]
    cases hd : p.component? g with
    | some d => exact hold hd
    | none =>
        have hdead : (p.grow parent id).component? g = none := by
          rw [component?_grow hc, if_neg hnew, hd, if_neg]
          rintro rfl
          rw [hc] at hd
          cases hd
        rw [path?_of_dead hd, path?_of_dead hdead]

theorem find?_childPath (ht : p.IsTree) (hc : p.component? parent = some c)
    (hfree : p.childNamed? c id = none) (hid : FitsPath id) (hpath : p.path? parent = some path) :
    p.find? (childPath path id) = none := by
  rw [Option.eq_none_iff_forall_ne_some]
  intro g hg
  have hold := ht.find?_iff_path?.1 hg
  obtain ⟨d, hd⟩ := live_of_path? hold
  have hne : g ≠ p.slots.size := Nat.ne_of_lt (lt_size_of_live hd)
  have hnew : (p.grow parent id).path? p.slots.size = some (childPath path id) := by
    rw [ht.path?_grow hc hfree hid, if_pos rfl, hpath]
    rfl
  have hsame : (p.grow parent id).path? g = some (childPath path id) := by
    rw [ht.path?_grow hc hfree hid, if_neg hne, hold]
  exact hne ((ht.grow hc hfree hid).eq_of_path? hsame hnew)

/-- A new component adds its own name. -/
theorem find?_grow (ht : p.IsTree) (hc : p.component? parent = some c)
    (hfree : p.childNamed? c id = none) (hid : FitsPath id) (hpath : p.path? parent = some path)
    (s : String) :
    (p.grow parent id).find? s =
      if s = childPath path id then some p.slots.size else p.find? s := by
  have hq := ht.grow hc hfree hid
  ext g
  rw [hq.find?_iff_path?, ht.path?_grow hc hfree hid, hpath, Option.map_some]
  by_cases hnew : g = p.slots.size
  · rw [if_pos hnew, Option.some.injEq]
    by_cases hs : s = childPath path id
    · simp [hs, hnew]
    · rw [if_neg hs]
      constructor
      · intro he
        exact absurd he.symm hs
      · intro hf
        obtain ⟨d, hd⟩ := live_of_path? (ht.find?_iff_path?.1 hf)
        exact absurd hnew (Nat.ne_of_lt (lt_size_of_live hd))
  · rw [if_neg hnew, ← ht.find?_iff_path?]
    by_cases hs : s = childPath path id
    · rw [if_pos hs, hs, ht.find?_childPath hc hfree hid hpath]
      simp [Ne.symm hnew]
    · rw [if_neg hs]

theorem path?_cut (ht : p.IsTree) (hne : h ≠ root) (hc : p.component? h = some c) (g : Handle) :
    (p.cut h c.parent).path? g = some s ↔ ¬ p.InSubtree g h ∧ p.path? g = some s := by
  have hkept : ∀ {g d}, ¬ p.InSubtree g h → p.component? g = some d →
      (p.cut h c.parent).path? g = p.path? g := by
    intro g d hg hd
    refine ht.path?_eq_of_kept (ht.cut hne hc) (S := fun g => ¬ p.InSubtree g h)
      not_inSubtree_parent ?_ hd hg
    intro g d hg hd
    obtain ⟨e, he, hid, hparent, -⟩ := ht.exists_component_cut hc hg hd
    exact ⟨e, he, hid, hparent⟩
  constructor
  · intro hs
    obtain ⟨e, he⟩ := live_of_path? hs
    obtain ⟨hg, d, hd, -⟩ := ht.cut_cases hc he
    exact ⟨hg, (hkept hg hd).symm.trans hs⟩
  · rintro ⟨hg, hs⟩
    obtain ⟨d, hd⟩ := live_of_path? hs
    exact (hkept hg hd).trans hs

/-- A component that goes takes its own name along and all that begin with it. -/
theorem find?_cut (ht : p.IsTree) (hne : h ≠ root) (hc : p.component? h = some c)
    (hpath : p.path? h = some path) (s : String) :
    (IsWithin s path → (p.cut h c.parent).find? s = none) ∧
      (¬ IsWithin s path → (p.cut h c.parent).find? s = p.find? s) := by
  have hfind : ∀ g, (p.cut h c.parent).find? s = some g ↔
      ¬ IsWithin s path ∧ p.find? s = some g := by
    intro g
    rw [(ht.cut hne hc).find?_iff_path?, ht.path?_cut hne hc, ht.find?_iff_path?]
    exact and_congr_left fun hs => not_congr (ht.inSubtree_iff_isWithin hne hpath hs)
  constructor
  · intro hs
    rw [Option.eq_none_iff_forall_ne_some]
    intro g hg
    exact ((hfind g).1 hg).1 hs
  · intro hs
    ext g
    rw [hfind]
    exact and_iff_right hs

end IsTree

theorem sameShape_change {f : Component → Component} (hf : ∀ c, (f c).place = c.place) (p : Page)
    (h : Handle) : p.SameShape ((Edit.change h f).apply p).2 := by
  rw [Edit.apply_change]
  cases p.component? h with
  | none => exact sameShape_of_slots_eq rfl
  | some c => exact SameShape.update hf p h

theorem sameShape_run (p : Page) {op : Operation} (hop : ¬ op.EditsTree) :
    p.SameShape (op.run p) := by
  cases op with
  | addComponent parent id => exact absurd trivial hop
  | removeComponent h => exact absurd trivial hop
  | attach h b _ =>
      rw [Operation.run, Edit.apply_attach]
      cases p.component? h with
      | none => exact sameShape_of_slots_eq rfl
      | some c => exact sameShape_withBehavior p h b
  | detach h index =>
      rw [Operation.run, Edit.apply_detach]
      cases p.component? h with
      | none => exact sameShape_of_slots_eq rfl
      | some c =>
          cases hb : c.behaviors[index]? with
          | none => simpa only [hb] using sameShape_of_slots_eq rfl
          | some b => simpa only [hb] using sameShape_withoutBehavior p h index b
  | setEnabled h enabled =>
      apply sameShape_change
      intro c
      rfl
  | setVisible h visible =>
      apply sameShape_change
      intro c
      rfl
  | setOutputMarkupId h output =>
      apply sameShape_change
      intro c
      rfl
  | setMarkupId h markupId =>
      rw [Operation.run, Edit.apply_setMarkupId]
      cases p.markupIdFault? h markupId with
      | some e => exact sameShape_of_slots_eq rfl
      | none =>
          apply SameShape.update
          intro c
          rfl
  | setParameters ps => exact sameShape_of_slots_eq rfl
  | dispatch settings query =>
      rw [Operation.run, Edit.apply_dispatch]
      cases p.authorize settings (.ofQuery query) with
      | error e => exact sameShape_of_slots_eq rfl
      | ok l => exact sameShape_of_slots_eq rfl
  | changeMetadata f => exact sameShape_of_slots_eq rfl
  | changeRegistry f => exact sameShape_of_slots_eq rfl

theorem addComponent_eq_ok (hadd : (Edit.addComponent parent id).apply p = (.ok h, q)) :
    h = p.slots.size ∧ q = p.grow parent id ∧ FitsPath id ∧
      ∃ c, p.component? parent = some c ∧ p.childNamed? c id = none := by
  rw [Edit.apply_addComponent] at hadd
  cases hf : p.additionFault? parent id with
  | some e =>
      rw [hf] at hadd
      cases hadd
  | none =>
      rw [hf] at hadd
      cases hadd
      exact ⟨rfl, rfl, additionFault?_eq_none_iff.1 hf⟩

/-- The paths of the live components and the texts that find one are the same texts, one for each
component. So no text with an empty piece finds a component, and only the empty text the page. -/
theorem Reachable.find?_exact (hp : p.Reachable) :
    (∀ h c, p.component? h = some c → ∃ s, p.path? h = some s ∧ p.find? s = some h) ∧
    (∀ s h, p.find? s = some h → (∃ c, p.component? h = some c) ∧ p.path? h = some s) ∧
    (∀ s, s ≠ "" → "" ∈ splitPath s → p.find? s = none) ∧
    (∀ s t, p.find? (":" ++ s) = none ∧ p.find? (s ++ ":") = none ∧
      p.find? (s ++ "::" ++ t) = none) ∧
    ∀ s, p.find? s = some root ↔ s = "" := by
  have ht : p.IsTree := hp.isTree
  refine ⟨?_, ?_, ?_, ?_, ?_⟩
  · intro h c hc
    obtain ⟨s, hs⟩ := ht.exists_path hc
    exact ⟨s, hs, ht.find?_iff_path?.2 hs⟩
  · intro s h hf
    have hs := ht.find?_iff_path?.1 hf
    exact ⟨IsTree.live_of_path? hs, hs⟩
  · intro s hs hmem
    exact ht.find?_eq_none_of_empty_mem hs hmem
  · intro s t
    obtain ⟨hfront, hback, hmiddle⟩ := empty_mem_splitPath s t
    exact ⟨ht.find?_eq_none_of_empty_mem (by simp) hfront,
      ht.find?_eq_none_of_empty_mem (by simp) hback,
      ht.find?_eq_none_of_empty_mem (by simp) hmiddle⟩
  · intro s
    rw [ht.find?_iff_path?, ht.path?_root, Option.some.injEq]
    exact eq_comm

theorem sample_find?_exact :
    sample.path? 2 = some "form:save" ∧ sample.find? "form:save" = some 2 ∧
      sample.find? "form::save" = none := by
  have hpath : sample.path? 2 = some "form:save" := by decide +kernel
  obtain ⟨c, hc⟩ := IsTree.live_of_path? hpath
  obtain ⟨hlive, -, -, hpieces, -⟩ := sample_reachable.find?_exact
  obtain ⟨s, hs, hf⟩ := hlive 2 c hc
  rw [hpath] at hs
  cases hs
  exact ⟨hpath, hf, (hpieces "form" "save").2.2⟩

/-- Every operation acts on the names as on a map that is closed under going up. -/
theorem Reachable.find?_after (hp : p.Reachable) :
    (∀ parent id h, (Edit.addComponent parent id).apply p = (.ok h, q) →
      ∃ path, p.path? parent = some path ∧ p.find? (childPath path id) = none ∧
        ∀ s, q.find? s = if s = childPath path id then some h else p.find? s) ∧
    (∀ h, (Edit.removeComponent h).apply p = (.ok ⟨⟩, q) →
      ∃ path, p.path? h = some path ∧ ∀ s, (IsWithin s path → q.find? s = none) ∧
        (¬ IsWithin s path → q.find? s = p.find? s)) ∧
    (∀ e, ((∃ parent id, (Edit.addComponent parent id).apply p = (.error e, q)) ∨
        ∃ h, (Edit.removeComponent h).apply p = (.error e, q)) →
      ∀ s, q.find? s = p.find? s) ∧
    ∀ op : Operation, ¬ op.EditsTree → ∀ s, (op.run p).find? s = p.find? s := by
  have ht : p.IsTree := hp.isTree
  refine ⟨?_, ?_, ?_, ?_⟩
  · intro parent id h hadd
    obtain ⟨rfl, rfl, hid, c, hc, hfree⟩ := addComponent_eq_ok hadd
    obtain ⟨path, hpath⟩ := ht.exists_path hc
    exact ⟨path, hpath, ht.find?_childPath hc hfree hid hpath, ht.find?_grow hc hfree hid hpath⟩
  · intro h hremove
    have hwhole := ht.removeComponent_allOrNothing h
    have hne : h ≠ root := fun he => hwhole.not_fault hremove (Or.inl he)
    obtain ⟨⟨c, hc, rfl⟩, -⟩ := hwhole.complete hremove
    obtain ⟨path, hpath⟩ := ht.exists_path hc
    exact ⟨path, hpath, ht.find?_cut hne hc hpath⟩
  · rintro e (⟨parent, id, hadd⟩ | ⟨h, hremove⟩) s
    · rw [(ht.addComponent_allOrNothing parent id).unchanged hadd]
    · rw [(ht.removeComponent_allOrNothing h).unchanged hremove]
  · intro op hop s
    exact (p.sameShape_run hop).find?_eq s

/-- A name that only begins like the form's is not taken along. -/
theorem sample_find?_after :
    (∀ s, (sample.grow 1 "reset").find? s =
        if s = "form:reset" then some 3 else sample.find? s) ∧
      (sample.cut 1 (some root)).find? "form:save" = none ∧
      (sample.cut 1 (some root)).find? "formal" = sample.find? "formal" := by
  have hpath : sample.path? 1 = some "form" := by decide +kernel
  have hparent : sample.parent? 1 = some root := by decide +kernel
  obtain ⟨c, hc, hg⟩ := parent?_eq_some.1 hparent
  have hadd : (Edit.addComponent 1 "reset").apply sample = (.ok 3, sample.grow 1 "reset") := by
    have hfault : sample.additionFault? 1 "reset" = none := by decide +kernel
    rw [Edit.apply_addComponent, hfault]
    rfl
  have hremove : (Edit.removeComponent 1).apply sample = (.ok ⟨⟩, sample.cut 1 (some root)) := by
    rw [← hg]
    exact sample_reachable.isTree.apply_removeComponent (by decide) hc
  obtain ⟨path, hs, -, hgrown⟩ := sample_reachable.find?_after.1 1 "reset" 3 hadd
  obtain ⟨path', hs', hcut⟩ := sample_reachable.find?_after.2.1 1 hremove
  rw [hpath] at hs hs'
  cases hs
  cases hs'
  have hformal : ¬ IsWithin "formal" "form" := by
    rintro (he | ⟨t, ht⟩)
    · exact absurd he (by decide)
    · have htail := congrArg (fun s => s.toList.drop 4) ht
      simp at htail
  exact ⟨hgrown, (hcut "form:save").1 (Or.inr ⟨"save", rfl⟩), (hcut "formal").2 hformal⟩

end Page

end PageListeners
