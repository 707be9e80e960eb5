import PageListeners.Proofs.Page.Tree

/-!
# The way up

In a tree every live component has a lineage, which ends at the page. A condition holds upward
exactly if it holds of each component that the given one lies below.
-/

namespace PageListeners.Page

variable {p q : Page} {g h : Handle} {c d : Component}

theorem lineage?_of_dead (hc : p.component? h = none) : p.lineage? h = none := by
  rw [lineage?, hc]

theorem lineage?_of_parent_none (hc : p.component? h = some c) (hn : c.parent = none) :
    p.lineage? h = some [(h, c)] := by
  rw [lineage?, hc]
  simp only [hn]

theorem lineage?_of_parent_some (hc : p.component? h = some c) (hg : c.parent = some g)
    (hlt : g < h) : p.lineage? h = (p.lineage? g).map ((h, c) :: ·) := by
  rw [lineage?, hc]
  simp only [hg, if_pos hlt]

/-- What a selection `f` that keeps the parents shows of a lineage depends only on what it shows of
the components. -/
theorem lineage?_congr {β : Type} {f : Component → β} (parentOf : β → Option Handle)
    (hf : ∀ c, parentOf (f c) = c.parent)
    (hpq : ∀ h, (p.component? h).map f = (q.component? h).map f) (h : Handle) :
    (p.lineage? h).map (·.map fun e => (e.1, f e.2)) =
      (q.lineage? h).map (·.map fun e => (e.1, f e.2)) := by
  induction h using Nat.strongRecOn with
  | ind h ih =>
    have hh := hpq h
    cases hc : p.component? h with
    | none =>
        rw [hc, Option.map_none] at hh
        rw [lineage?_of_dead hc, lineage?_of_dead (Option.map_eq_none_iff.1 hh.symm)]
    | some c =>
        rw [hc, Option.map_some] at hh
        obtain ⟨d, hd, hfd⟩ := Option.map_eq_some_iff.1 hh.symm
        have hparent : d.parent = c.parent := by rw [← hf, ← hf, hfd]
        rw [lineage?, lineage?, hc, hd]
        cases hg : c.parent with
        | none => simp [hparent, hg, hfd]
        | some g =>
            by_cases hlt : g < h
            · have hmap : ∀ (e : Handle × Component) (l : Option (List (Handle × Component))),
                  (l.map (e :: ·)).map (·.map fun e => (e.1, f e.2)) =
                    (l.map (·.map fun e => (e.1, f e.2))).map ((e.1, f e.2) :: ·) := by
                intro e l
                cases l <;> rfl
              simp only [hparent, hg, if_pos hlt, hmap, hfd, ih g hlt]
            · simp [hparent, hg, hlt]

/-- What is shown of the components above depends on what is shown of the lineage. -/
theorem map_ancestors {β : Type} (f : Handle × Component → β) (p : Page) (h : Handle) :
    (p.ancestors h).map f = (((p.lineage? h).map (·.map f)).getD []).tail.dropLast := by
  rw [ancestors]
  cases p.lineage? h with
  | none => rfl
  | some line =>
      rw [List.map_dropLast, List.map_tail]
      rfl

theorem lineage?_eq_of_component? (hc : ∀ h, q.component? h = p.component? h) (h : Handle) :
    q.lineage? h = p.lineage? h := by
  have hline := lineage?_congr (f := fun c => c) Component.parent (fun _ => rfl)
    (fun h => congrArg (Option.map fun c => c) (hc h)) h
  simpa using hline

/-- An edit of a component does not show on the way up from where that component is not above. -/
theorem lineage?_update_of_not_inSubtree (u : Component → Component) (hg : ¬ p.InSubtree g h) :
    (p.update h u).lineage? g = p.lineage? g := by
  induction g using Nat.strongRecOn with
  | ind g ih =>
    have hne : g ≠ h := by
      rintro rfl
      exact hg Relation.ReflTransGen.refl
    have hsame : (p.update h u).component? g = p.component? g := by
      rw [component?_update, if_neg hne]
    cases hc : p.component? g with
    | none => rw [lineage?_of_dead hc, lineage?_of_dead (hsame.trans hc)]
    | some c =>
        rw [lineage?, lineage?, hsame, hc]
        cases hk : c.parent with
        | none => simp only [hk]
        | some k =>
            have hout := not_inSubtree_parent hg (parent?_eq_some.2 ⟨c, hc, hk⟩)
            by_cases hlt : k < g
            · simp only [hk, if_pos hlt, ih k hlt hout]
            · simp only [hk, if_neg hlt]

/-- Upward conditions depend on the parents and on what the condition says of the components. -/
theorem holdsUpward_congr {s : Component → Bool}
    (hpq : ∀ h, (q.component? h).map (fun c => (c.parent, s c)) =
      (p.component? h).map fun c => (c.parent, s c)) (h : Handle) :
    q.holdsUpward s h = p.holdsUpward s h := by
  have hline := lineage?_congr (f := fun c => (c.parent, s c)) Prod.fst (fun _ => rfl) hpq h
  have hflags : ∀ r : Page, r.holdsUpward s h =
      ((r.lineage? h).map (·.map fun e => (e.1, e.2.parent, s e.2))).any (·.all (·.2.2)) := by
    intro r
    rw [holdsUpward]
    cases r.lineage? h with
    | none => rfl
    | some line => simp [Function.comp_def]
  rw [hflags, hflags, hline]

theorem holdsUpward_of_dead (s : Component → Bool) (hc : p.component? h = none) :
    p.holdsUpward s h = false := by
  rw [holdsUpward, lineage?_of_dead hc]
  rfl

theorem holdsUpward_of_parent_none (s : Component → Bool) (hc : p.component? h = some c)
    (hn : c.parent = none) : p.holdsUpward s h = s c := by
  rw [holdsUpward, lineage?_of_parent_none hc hn]
  simp

theorem holdsUpward_of_parent_some (s : Component → Bool) (hc : p.component? h = some c)
    (hg : c.parent = some g) (hlt : g < h) :
    p.holdsUpward s h = (s c && p.holdsUpward s g) := by
  rw [holdsUpward, holdsUpward, lineage?_of_parent_some hc hg hlt]
  cases p.lineage? g with
  | none => simp
  | some line => simp

theorem live_of_holdsUpward {s : Component → Bool} (hs : p.holdsUpward s h = true) :
    ∃ c, p.component? h = some c := by
  cases hc : p.component? h with
  | none =>
      rw [holdsUpward_of_dead s hc] at hs
      cases hs
  | some c => exact ⟨c, rfl⟩

namespace IsTree

theorem exists_lineage (ht : p.IsTree) (hc : p.component? h = some c) :
    ∃ line, p.lineage? h = some ((h, c) :: line) := by
  refine ht.induction (P := fun h c => ∃ line, p.lineage? h = some ((h, c) :: line)) ?_ ?_ h c hc
  · intro c hc hn
    exact ⟨[], lineage?_of_parent_none hc hn⟩
  · intro h c g d hc hg _ hlt ih
    obtain ⟨line, hline⟩ := ih
    exact ⟨(g, d) :: line, by rw [lineage?_of_parent_some hc hg hlt, hline, Option.map_some]⟩

theorem exists_lineage_root (ht : p.IsTree) (hc : p.component? h = some c) :
    ∃ line r, p.lineage? h = some (line ++ [(root, r)]) := by
  refine ht.induction
    (P := fun h _ => ∃ line r, p.lineage? h = some (line ++ [(root, r)])) ?_ ?_ h c hc
  · intro r hr hn
    exact ⟨[], r, lineage?_of_parent_none hr hn⟩
  · intro h c g d hc hg _ hlt ih
    obtain ⟨line, r, hline⟩ := ih
    exact ⟨(h, c) :: line, r, by rw [lineage?_of_parent_some hc hg hlt, hline]; rfl⟩

/-- A condition that holds upward from a component holds upward from everything above it. -/
theorem holdsUpward_of_inSubtree {s : Component → Bool} {a : Handle} (ht : p.IsTree)
    (hs : p.holdsUpward s h = true) (ha : p.InSubtree h a) : p.holdsUpward s a = true := by
  induction ha with
  | refl => exact hs
  | tail _ hk ih =>
      obtain ⟨c, hc, hg⟩ := parent?_eq_some.1 hk
      rw [holdsUpward_of_parent_some s hc hg (ht.parent_lt hc hg), Bool.and_eq_true] at ih
      exact ih.2

theorem apply_of_holdsUpward {s : Component → Bool} (ht : p.IsTree)
    (hs : p.holdsUpward s h = true) (hc : p.component? h = some c) : s c = true := by
  cases hg : c.parent with
  | none => rwa [holdsUpward_of_parent_none s hc hg] at hs
  | some g =>
      rw [holdsUpward_of_parent_some s hc hg (ht.parent_lt hc hg), Bool.and_eq_true] at hs
      exact hs.1

theorem holdsUpward_iff (ht : p.IsTree) (s : Component → Bool) (hc : p.component? h = some c) :
    p.holdsUpward s h = true ↔
      ∀ a d, p.InSubtree h a → p.component? a = some d → s d = true := by
  constructor
  · intro hs a d ha hd
    exact ht.apply_of_holdsUpward (ht.holdsUpward_of_inSubtree hs ha) hd
  · refine ht.induction
      (P := fun h _ => (∀ a d, p.InSubtree h a → p.component? a = some d → s d = true) →
        p.holdsUpward s h = true) ?_ ?_ h c hc
    · intro c hc hn hall
      rw [holdsUpward_of_parent_none s hc hn]
      exact hall root c Relation.ReflTransGen.refl hc
    · intro h c g d hc hg _ hlt ih hall
      rw [holdsUpward_of_parent_some s hc hg hlt, Bool.and_eq_true]
      refine ⟨hall h c Relation.ReflTransGen.refl hc, ih ?_⟩
      intro a e ha he
      exact hall a e (Relation.ReflTransGen.head (parent?_eq_some.2 ⟨c, hc, hg⟩) ha) he

end IsTree

end PageListeners.Page
