import Mathlib.Data.List.Nodup
import Mathlib.Data.List.Perm.Subperm
import PageListeners.Proofs.Address
import PageListeners.Proofs.Page.Namespace

/-!
# Markup ids

The client knows an element by its markup id. A generated id is taken from more candidates than
there are components, so one of them is free, and an id given by hand is refused if another
component has it. So no two live components share one. A generated id ends in a number that is not
given a second time, so it does not come back after its component is gone.
-/

namespace PageListeners.Page

variable {p q : Page} {g h parent : Handle} {id markupId : String} {except? : Option Handle}

/-- The digits of the number stand behind the last underscore, whatever the id holds. -/
theorem splitLast?_numbered (id : String) (n : Nat) :
    splitLast? '_' (numbered id n).toList = some (id.toList, (toString n).toList) := by
  have hdigits : '_' ∉ (toString n).toList := by
    intro hc
    cases Address.isDigit_of_mem_toString hc
  have htext : (numbered id n).toList = id.toList ++ '_' :: (toString n).toList := by
    simp [numbered]
  rw [htext, splitLast?_append hdigits]

theorem number_eq_of_numbered_eq {id' : String} {n m : Nat} (he : numbered id n = numbered id' m) :
    n = m := by
  have hsplit := congrArg (fun s : String => splitLast? '_' s.toList) he
  simp only [splitLast?_numbered, Option.some.injEq, Prod.mk.injEq, String.toList_inj] at hsplit
  exact Nat.repr_inj.1 hsplit.2

theorem numbered_injective (id : String) : Function.Injective (numbered id) :=
  fun _ _ he => number_eq_of_numbered_eq he

theorem numbered_ne_empty (id : String) (n : Nat) : numbered id n ≠ "" := by
  simp [numbered]

/-- The components take fewer markup ids than there are candidates. -/
theorem exists_free_number (p : Page) (id : String) (start : Nat) :
    ∃ n ∈ List.range' start (p.components.length + 1),
      p.usesMarkupId (numbered id n) none = false := by
  apply Classical.byContradiction
  intro hnone
  have hused : ((List.range' start (p.components.length + 1)).map (numbered id)) ⊆
      p.components.map (·.2.markupId) := by
    intro m hm
    obtain ⟨n, hn, rfl⟩ := List.mem_map.1 hm
    have htaken : p.usesMarkupId (numbered id n) none = true :=
      Bool.not_eq_false _ ▸ fun hfree => hnone ⟨n, hn, hfree⟩
    obtain ⟨c, hc, hsame⟩ := List.any_eq_true.1 htaken
    rw [Bool.and_eq_true, beq_iff_eq] at hsame
    exact List.mem_map.2 ⟨c, hc, hsame.2⟩
  have hdistinct : ((List.range' start (p.components.length + 1)).map (numbered id)).Nodup :=
    List.Nodup.map (numbered_injective id) List.nodup_range'
  have hlength := (List.Nodup.subperm hdistinct hused).length_le
  simp only [List.length_map, List.length_range'] at hlength
  exact Nat.not_succ_le_self _ hlength

/-- The number that is found is the first of the candidates whose markup id no component has. -/
theorem find?_candidates (p : Page) (id : String) :
    ((List.range' p.nextNumber (p.components.length + 1)).find?
      fun n => !p.usesMarkupId (numbered id n) none) = some (p.freeNumber id) := by
  obtain ⟨n, hn, hfree⟩ := p.exists_free_number id p.nextNumber
  rw [freeNumber]
  cases hfind : (List.range' p.nextNumber (p.components.length + 1)).find?
      fun n => !p.usesMarkupId (numbered id n) none with
  | none =>
      have htaken := List.find?_eq_none.1 hfind n hn
      rw [hfree] at htaken
      exact absurd rfl htaken
  | some m => rfl

theorem usesMarkupId_freeNumber (p : Page) (id : String) :
    p.usesMarkupId (numbered id (p.freeNumber id)) none = false := by
  simpa using List.find?_some (p.find?_candidates id)

theorem markupId?_update {u : Component → Component} (h : Handle)
    (hu : ∀ c, (u c).markupId = c.markupId) (g : Handle) :
    (p.update h u).markupId? g = p.markupId? g :=
  map_component?_update hu p h g

/-- A step gives at most one component another markup id, which is not empty and which no other
component has. -/
theorem Step.markupId?_cases (hs : Step p q) : ∃ k, ∀ g m, q.markupId? g = some m →
    p.markupId? g = some m ∨ g = k ∧ m ≠ "" ∧ ∀ h, p.markupId? h = some m → h = k := by
  have hkeep : (∀ g, q.markupId? g = p.markupId? g) → ∃ k, ∀ g m, q.markupId? g = some m →
      p.markupId? g = some m ∨ g = k ∧ m ≠ "" ∧ ∀ h, p.markupId? h = some m → h = k :=
    fun he => ⟨root, fun g m hm => Or.inl (he g ▸ hm)⟩
  cases hs with
  | stay => exact hkeep fun _ => rfl
  | @grow parent c id hc _ _ =>
      refine ⟨p.slots.size, ?_⟩
      intro g m hm
      rw [markupId?, map_component?_grow (fun _ _ => rfl) hc] at hm
      split at hm
      · next hg =>
        cases hm
        refine Or.inr ⟨hg, numbered_ne_empty id _, ?_⟩
        intro h hh
        cases usesMarkupId_eq_false_iff.1 (p.usesMarkupId_freeNumber id) h hh
      · exact Or.inl hm
  | cut _ _ =>
      refine ⟨root, ?_⟩
      intro g m hm
      rw [markupId?, map_component?_cut fun _ _ => rfl] at hm
      split at hm
      · cases hm
      · exact Or.inl hm
  | @attach h c b hc hb =>
      exact hkeep (markupId?_update (p := { p with delegations := b.enter p.delegations }) h
        fun _ => rfl)
  | @detach h c index b hc hb =>
      exact hkeep (markupId?_update (p := p) (u := fun c =>
        { c with behaviors := c.behaviors.eraseIdx index }) h fun _ => rfl)
  | enabled h b => exact hkeep (markupId?_update h fun _ => rfl)
  | visible h b => exact hkeep (markupId?_update h fun _ => rfl)
  | output h b => exact hkeep (markupId?_update h fun _ => rfl)
  | @markupId h markupId hfault =>
      refine ⟨h, ?_⟩
      intro g m hm
      rw [markupId?, component?_update] at hm
      split at hm
      · next hg =>
        obtain ⟨c, hc, rfl⟩ := Option.map_eq_some_iff.1 hm
        obtain ⟨d, hd, rfl⟩ := Option.map_eq_some_iff.1 hc
        obtain ⟨hempty, -, hfree⟩ := markupIdFault?_eq_none_iff.1 hfault
        exact Or.inr ⟨hg, hempty, hfree⟩
      · exact Or.inl hm
  | parameters ps => exact hkeep fun _ => rfl
  | metadata m => exact hkeep fun _ => rfl

/-- No two live components have the same markup id. -/
theorem ReachableBy.eq_of_markupId? {allowed : Operation → Prop} (hp : ReachableBy allowed p)
    (hg : p.markupId? g = some markupId) (hh : p.markupId? h = some markupId) : g = h := by
  have hall : ∀ g h m, p.markupId? g = some m → p.markupId? h = some m → g = h := by
    refine hp.induction (P := fun p => ∀ g h m, p.markupId? g = some m → p.markupId? h = some m →
      g = h) ?_ ?_ fun _ ih => ih
    · intro id ps g h m hg hh
      obtain ⟨c, hc, -⟩ := Option.map_eq_some_iff.1 hg
      obtain ⟨d, hd, -⟩ := Option.map_eq_some_iff.1 hh
      rw [(eq_root_of_new hc).1, (eq_root_of_new hd).1]
    · intro p q _ hs ih g h m hg hh
      obtain ⟨k, hk⟩ := hs.markupId?_cases
      rcases hk g m hg with hg | ⟨rfl, -, hfree⟩
      · rcases hk h m hh with hh | ⟨rfl, -, hfree⟩
        · exact ih g h m hg hh
        · exact hfree g hg
      · rcases hk h m hh with hh | ⟨rfl, -, -⟩
        · exact (hfree h hh).symm
        · rfl
  exact hall g h markupId hg hh

theorem ReachableBy.markupId_ne_empty {allowed : Operation → Prop} (hp : ReachableBy allowed p)
    (hm : p.markupId? h = some markupId) : markupId ≠ "" := by
  have hall : ∀ g m, p.markupId? g = some m → m ≠ "" := by
    refine hp.induction (P := fun p => ∀ g m, p.markupId? g = some m → m ≠ "") ?_ ?_ fun _ ih => ih
    · intro id ps g m hm
      obtain ⟨c, hc, rfl⟩ := Option.map_eq_some_iff.1 hm
      obtain ⟨-, rfl⟩ := eq_root_of_new hc
      simp [rootNode]
    · intro p q _ hs ih g m hm
      obtain ⟨k, hk⟩ := hs.markupId?_cases
      rcases hk g m hm with hm | ⟨-, hempty, -⟩
      · exact ih g m hm
      · exact hempty
  exact hall h markupId hm

theorem nextNumber_le_freeNumber (p : Page) (id : String) : p.nextNumber ≤ p.freeNumber id :=
  (List.mem_range'_1.1 (List.mem_of_find?_eq_some (p.find?_candidates id))).1

theorem nextNumber_discard (p : Page) (h : Handle) :
    (p.discard h).nextNumber = p.nextNumber := by
  unfold discard
  cases p.component? h <;> rfl

theorem nextNumber_cut (p : Page) (h : Handle) (above : Option Handle) :
    (p.cut h above).nextNumber = p.nextNumber := by
  have hprune : (p.prune h).nextNumber = p.nextNumber := by
    rw [prune]
    generalize p.subtree h = hs
    induction hs generalizing p with
    | nil => rfl
    | cons k hs ih => rw [List.foldl_cons, ih, nextNumber_discard]
  cases above with
  | none => exact hprune
  | some k => exact hprune

theorem Step.nextNumber_le (hs : Step p q) : p.nextNumber ≤ q.nextNumber := by
  cases hs with
  | @grow parent c id _ _ _ => exact Nat.le_succ_of_le (p.nextNumber_le_freeNumber id)
  | cut _ _ => exact Nat.le_of_eq (nextNumber_cut ..).symm
  | _ => exact Nat.le_refl _

theorem Reachable.nextNumber_le_foldl (hp : p.Reachable) (ops : List Operation) :
    p.nextNumber ≤ (ops.foldl Operation.run p).nextNumber := by
  induction ops generalizing p with
  | nil => exact Nat.le_refl _
  | cons op ops ih =>
      have hfirst : p.nextNumber ≤ (op.run p).nextNumber := by
        rcases hp.isTree.step op with hs | ⟨f, rfl⟩
        · exact hs.nextNumber_le
        · exact Nat.le_refl _
      exact Nat.le_trans hfirst (ih (hp.step trivial))

/-- The markup id that a new component gets uses up the number in it. -/
theorem generated_of_addComponent (hadd : (Edit.addComponent parent id).apply p = (.ok h, q)) :
    q.markupId? h = some (numbered id (p.freeNumber id)) ∧ q.nextNumber = p.freeNumber id + 1 := by
  obtain ⟨rfl, rfl, -, c, hc, -⟩ := addComponent_eq_ok hadd
  refine ⟨?_, rfl⟩
  rw [markupId?, map_component?_grow (fun _ _ => rfl) hc, if_pos rfl]
  rfl

/-- At any time the live components have different markup ids, none of them empty; and in the course
of time no two additions get the same one, whatever became of the first component. -/
theorem Reachable.markupIds_identify (hp : p.Reachable) :
    (∀ h c, p.component? h = some c → c.markupId ≠ "" ∧
      ∀ g d, p.component? g = some d → d.markupId = c.markupId → g = h) ∧
    ∀ parent id h q, (Edit.addComponent parent id).apply p = (.ok h, q) →
      ∀ (ops : List Operation) parent' id' h' q',
        (Edit.addComponent parent' id').apply (ops.foldl Operation.run q) = (.ok h', q') →
        ∃ m m', q.markupId? h = some m ∧ q'.markupId? h' = some m' ∧ m ≠ m' := by
  have hlive : ∀ {h c}, p.component? h = some c → p.markupId? h = some c.markupId := by
    intro h c hc
    rw [markupId?, hc, Option.map_some]
  refine ⟨?_, ?_⟩
  · intro h c hc
    refine ⟨hp.markupId_ne_empty (hlive hc), ?_⟩
    intro g d hd hsame
    exact hp.eq_of_markupId? (hlive hd) (hsame ▸ hlive hc)
  · intro parent id h q hadd ops parent' id' h' q' hadd'
    obtain ⟨hm, hnext⟩ := generated_of_addComponent hadd
    obtain ⟨hm', -⟩ := generated_of_addComponent hadd'
    refine ⟨_, _, hm, hm', ?_⟩
    have hq : q.Reachable := by
      have hrun : Operation.run p (.addComponent parent id) = q := congrArg Prod.snd hadd
      exact hrun ▸ hp.step trivial
    have hlater : p.freeNumber id < (ops.foldl Operation.run q).freeNumber id' := by
      have hle := hq.nextNumber_le_foldl ops
      rw [hnext] at hle
      exact Nat.le_trans hle (nextNumber_le_freeNumber _ id')
    intro he
    exact Nat.ne_of_lt hlater (number_eq_of_numbered_eq he)

/-- The second item skips the number that the first one gave up for another. -/
theorem sample_markupIds_identify :
    let q := ((Edit.addComponent root "item").apply sample).2
    let r := [Operation.setMarkupId 3 "item_4"].foldl Operation.run q
    let q' := ((Edit.addComponent 1 "item").apply r).2
    q.markupId? 3 = some "item_3" ∧ r.markupId? 3 = some "item_4" ∧
      q'.markupId? 4 = some "item_5" ∧
      ∃ m m', q.markupId? 3 = some m ∧ q'.markupId? 4 = some m' ∧ m ≠ m' := by
  intro q r q'
  have hadd : (Edit.addComponent root "item").apply sample = (.ok 3, q) := by
    have hfault : sample.additionFault? root "item" = none := by decide +kernel
    simp only [q, Edit.apply_addComponent, hfault]
    rfl
  have hadd' : (Edit.addComponent 1 "item").apply r = (.ok 4, q') := by
    have hfault : r.additionFault? 1 "item" = none := by decide +kernel
    simp only [q', Edit.apply_addComponent, hfault]
    rfl
  exact ⟨by decide +kernel, by decide +kernel, by decide +kernel,
    sample_reachable.markupIds_identify.2 root "item" 3 q hadd _ 1 "item" 4 q' hadd'⟩

end PageListeners.Page
