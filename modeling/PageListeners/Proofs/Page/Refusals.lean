import Mathlib.Logic.Basic
import PageListeners.Proofs.Page.Census

/-!
# Refused edits

Some edits change several parts of a page one after the other, and a later part may be looked for
in vain. On a reachable page this does not happen: an edit is refused for a fault that is there
before its first change, and otherwise all its parts are done.
-/

namespace PageListeners

variable {p : Page} {h : Handle} {α : Type}

namespace Edit

/-- On page `p`, an edit is refused in case of a fault and in no other case. A refusal changes nothing
at all, and what is not refused is done. -/
structure AllOrNothing (m : Edit α) (p : Page) (fault : Prop) (done : α → Page → Prop) : Prop where
  refused_iff : (∃ e q, m.apply p = (.error e, q)) ↔ fault
  unchanged : ∀ {e q}, m.apply p = (.error e, q) → q = p
  complete : ∀ {a q}, m.apply p = (.ok a, q) → done a q

namespace AllOrNothing

variable {m : Edit α} {fault : Prop} {done : α → Page → Prop}

theorem of_refused {e : Error} (hm : m.apply p = (.error e, p)) (hfault : fault) :
    AllOrNothing m p fault done where
  refused_iff := ⟨fun _ => hfault, fun _ => ⟨e, p, hm⟩⟩
  unchanged := by
    intro e' q hq
    rw [hm] at hq
    cases hq
    rfl
  complete := by
    intro a q hq
    rw [hm] at hq
    cases hq

theorem of_done {a : α} {q : Page} (hm : m.apply p = (.ok a, q)) (hfault : ¬ fault)
    (hdone : done a q) : AllOrNothing m p fault done where
  refused_iff := by
    refine ⟨?_, fun hf => absurd hf hfault⟩
    rintro ⟨e, q', hq⟩
    rw [hm] at hq
    cases hq
  unchanged := by
    intro e q' hq
    rw [hm] at hq
    cases hq
  complete := by
    intro a' q' hq
    rw [hm] at hq
    cases hq
    exact hdone

theorem not_fault (hm : AllOrNothing m p fault done) {a : α} {q : Page}
    (hq : m.apply p = (.ok a, q)) : ¬ fault := by
  rw [← hm.refused_iff]
  rintro ⟨e, q', he⟩
  rw [hq] at he
  cases he

end AllOrNothing

end Edit

namespace Page

open Edit (AllOrNothing)

theorem isLive_eq_false_iff : p.isLive h = false ↔ p.component? h = none := by
  rw [isLive, Option.isSome_eq_false_iff, Option.isNone_iff_eq_none]

theorem isLive_cut (p : Page) (h : Handle) (above : Option Handle) (g : Handle) :
    (p.cut h above).isLive g = true ↔ p.isLive g = true ∧ g ∉ p.subtree h := by
  have hmap := map_component?_cut (f := fun _ => ()) (fun _ _ => rfl) p h above g
  rw [isLive, isLive, ← Option.isSome_map, hmap]
  by_cases hg : g ∈ p.subtree h <;> simp [hg]

theorem not_fitsPath_iff {id : String} :
    ¬ FitsPath id ↔ id = "" ∨ ∃ a ∈ id.toList, a = ':' ∨ Text.isBlank a = true := by
  simp only [FitsPath, not_and_or, not_not, not_forall, exists_prop, ne_eq, Bool.not_eq_false]

namespace IsTree

theorem addComponent_allOrNothing (ht : p.IsTree) (parent : Handle) (id : String) :
    AllOrNothing (Edit.addComponent parent id) p
      (id = "" ∨ (∃ a ∈ id.toList, a = ':' ∨ Text.isBlank a = true) ∨ p.isLive parent = false ∨
        ∃ k d, p.component? k = some d ∧ d.parent = some parent ∧ d.id = id)
      fun h q => h = p.slots.size ∧ q = p.grow parent id := by
  have happly := Edit.apply_addComponent p parent id
  rw [← or_assoc, ← not_fitsPath_iff]
  cases hf : p.additionFault? parent id with
  | none =>
      obtain ⟨hid, c, hc, hfree⟩ := additionFault?_eq_none_iff.1 hf
      rw [hf] at happly
      refine .of_done happly ?_ ⟨rfl, rfl⟩
      rintro (hbad | hdead | ⟨k, hk⟩)
      · exact hbad hid
      · rw [isLive_eq_false_iff, hc] at hdead
        cases hdead
      · rw [(ht.childNamed?_eq_some_iff hc).2 hk] at hfree
        cases hfree
  | some e =>
      rw [hf] at happly
      refine .of_refused happly ?_
      by_cases hid : FitsPath id
      · cases hc : p.component? parent with
        | none => exact Or.inr (Or.inl (isLive_eq_false_iff.2 hc))
        | some c =>
            cases hk : p.childNamed? c id with
            | none =>
                rw [additionFault?_eq_none_iff.2 ⟨hid, c, hc, hk⟩] at hf
                cases hf
            | some k => exact Or.inr (Or.inr ⟨k, (ht.childNamed?_eq_some_iff hc).1 hk⟩)
      · exact Or.inl hid

theorem removeComponent_allOrNothing (ht : p.IsTree) (h : Handle) :
    AllOrNothing (Edit.removeComponent h) p (h = root ∨ p.isLive h = false)
      fun _ q => (∃ c, p.component? h = some c ∧ q = p.cut h c.parent) ∧
        (∀ g, q.isLive g = true ↔ p.isLive g = true ∧ ¬ p.InSubtree g h) ∧ p.Releases q := by
  by_cases hne : h = root
  · subst hne
    exact .of_refused (Edit.apply_removeComponent_root p) (Or.inl rfl)
  · cases hc : p.component? h with
    | none =>
        have hdead := isLive_eq_false_iff.2 hc
        exact .of_refused (Edit.apply_removeComponent_dead p hne hc) (Or.inr hdead)
    | some c =>
        -- on a tree the parent outlives the removal, so that it is found when its list is changed
        refine .of_done (ht.apply_removeComponent hne hc) (by simp [hne, isLive, hc]) ?_
        refine ⟨⟨c, rfl, rfl⟩, ?_, .cut p h c.parent⟩
        intro g
        rw [isLive_cut, ht.mem_subtree_iff hc]

end IsTree

end Page

end PageListeners
