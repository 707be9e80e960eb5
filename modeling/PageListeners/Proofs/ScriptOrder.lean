import PageListeners.Proofs.HeadItems

/-!
# The order of the scripts

The pass writes the script of a delegator when it leaves its component. By then everything below was
entered and left, and the script is written nowhere else, so in the head it stands behind all
scripts of its subtree, though some of these were written on the way down and some on the way up.
-/

namespace PageListeners

namespace Head

variable {h : Head} {x y : HeadItem} {front : List HeadItem}

def Precedes (h : Head) (x y : HeadItem) : Prop :=
  x ∈ h.items ∧ y ∈ h.items ∧ h.items.idxOf x < h.items.idxOf y

/-- What was there earlier stands in front. -/
theorem precedes_of_front (hfront : front <+: h.items) (hx : x ∈ front) (hnew : y ∉ front)
    (hy : y ∈ h.items) : h.Precedes x y := by
  refine ⟨hfront.subset hx, hy, ?_⟩
  obtain ⟨back, hback⟩ := hfront
  rw [← hback, List.idxOf_append_of_mem hx, List.idxOf_append_of_notMem hnew]
  exact Nat.lt_add_right _ (List.idxOf_lt_length_of_mem hx)

theorem front_add (h : Head) (item : HeadItem) : h.items <+: (h.add item).items := by
  rw [items_add]
  split
  · exact List.prefix_rfl
  · exact List.prefix_append ..

end Head

namespace Pass

theorem front_resolved (s : Pass) (p : Page) (site : Site) (c : Component) (l : Listener) :
    s.head.items <+: (s.resolved p site c l).head.items := by
  unfold resolved
  cases p.resolution s.settings site.component l with
  | suppressed => exact List.prefix_rfl
  | delegated t => exact List.prefix_rfl
  | direct => exact s.head.front_add _

theorem front_flushed (s : Pass) (c : Component) (t : Site) (d : Delegator) :
    s.head.items <+: (s.flushed c t d).head.items := by
  unfold flushed
  cases d.script? s.settings c.markupId (s.contributions.get t) with
  | none => exact List.prefix_rfl
  | some script => exact s.head.front_add _

theorem front_foldl {α : Type} (s : Pass) (f : Pass → α → Pass) (xs : List α)
    (hf : ∀ t : Pass, ∀ x, t.head.items <+: (f t x).head.items) :
    s.head.items <+: (xs.foldl f s).head.items :=
  List.foldlRecOn xs f (motive := fun t => s.head.items <+: t.head.items) List.prefix_rfl
    fun t ht x _ => ht.trans (hf t x)

theorem front_visited (s : Pass) (p : Page) (v : Visit) :
    s.head.items <+: (s.visited p v).head.items := by
  cases v with
  | enter h =>
      rw [visited]
      split
      · exact List.prefix_rfl
      · next c _ => exact s.front_foldl _ _ fun t l => t.front_resolved p ⟨h, l.1⟩ c l.2
  | leave h =>
      rw [visited]
      split
      · exact List.prefix_rfl
      · next c _ => exact s.front_foldl _ _ fun t d => t.front_flushed c ⟨h, d.1⟩ d.2

end Pass

namespace Page

variable {p : Page} {settings : Settings} {site t t' : Site} {script own inner : String}
  {done rest : List Visit} {v : Visit} {h : Handle} {s : Pass}

/-- When a component is left, all other visits below it are done. -/
theorem IsTree.mem_done (ht : p.IsTree) (hv : p.visits = done ++ .leave h :: rest)
    (hmem : v ∈ p.visits) (hbelow : p.InSubtree v.component h) (hne : v ≠ .leave h) : v ∈ done := by
  have hturns := hv ▸ ht.pairwise_visits
  have hlater := (List.pairwise_cons.1 (List.pairwise_append.1 hturns).2.1).1
  rw [hv, List.mem_append, List.mem_cons] at hmem
  rcases hmem with hdone | rfl | hrest
  · exact hdone
  · exact absurd rfl hne
  · exact absurd hbelow (hlater v hrest)

/-- Before its component is left, a delegator has no script. -/
theorem ReachableBy.not_mem_items {allowed : Operation → Prop} (hp : ReachableBy allowed p)
    (ha : Pass.After p settings done s) (hv : p.visits = done ++ .leave t.component :: rest)
    (hs : p.IsConsolidated settings (p.resolutions settings) t script) :
    .ready script ∉ s.head.items := by
  have ht : p.IsTree := hp.isTree
  have hg : p.IsGathered settings ⟨_, p.resolutions settings⟩ :=
    hp.isGathered (Pass.after_visits ht settings)
  rw [ha.mem_items]
  rintro ⟨v, hdone, _, hwrites, ⟨⟩⟩
  cases v with
  | enter h =>
      obtain ⟨index, -, hown⟩ := hwrites
      exact hown.ne_consolidated hs rfl
  | leave h =>
      obtain ⟨index, hs'⟩ := hwrites
      obtain rfl := hg.eq_of_script hs hs'
      have hnodup := hv ▸ ht.nodup_visits
      exact (List.nodup_append.1 hnodup).2.2 _ hdone _ List.mem_cons_self rfl

/-- The script of a delegator stands behind the scripts of all listeners that are bound alone on its
component or below, and behind the scripts of all delegators below. -/
theorem Reachable.renderHead_orders (hp : p.Reachable) (settings : Settings) :
    ∃ head, p.renderHead settings = .ok head ∧ head.head.items.Nodup ∧
      ∀ t script, p.IsConsolidated settings head.resolutions t script →
        (∀ site own, (site, .direct) ∈ head.resolutions →
          p.InSubtree site.component t.component → p.IsOwnScript settings site own →
          head.head.Precedes (.ready own) (.ready script)) ∧
        ∀ t' inner, p.IsConsolidated settings head.resolutions t' inner →
          p.InSubtree t'.component t.component → t'.component ≠ t.component →
          head.head.Precedes (.ready inner) (.ready script) := by
  have ht : p.IsTree := hp.isTree
  have hend := Pass.after_visits ht settings
  refine ⟨_, ht.renderHead_eq settings, hend.tidy.nodup, ?_⟩
  intro t script hs
  have hleave : .leave t.component ∈ p.visits := by
    obtain ⟨site, hr⟩ := ht.exists_isConsolidated_iff.1 ⟨script, hs⟩
    exact ht.leave_mem_visits_of_delegated hr
  obtain ⟨done, rest, hv⟩ := List.append_of_mem hleave
  have ha := Pass.after_front ht settings hv
  have hnew := hp.not_mem_items ha hv hs
  have hitem := (ht.mem_items_iff hend).2 ⟨script, rfl, Or.inr ⟨t, hs⟩⟩
  have hfront := Pass.front_foldl (done.foldl (Pass.visited · p) { settings := settings })
    (Pass.visited · p) (.leave t.component :: rest) fun s v => s.front_visited p v
  rw [← List.foldl_append, ← hv] at hfront
  constructor
  · intro site own hr hbelow hown
    have hentered : .enter site.component ∈ p.visits :=
      ht.enter_mem_visits_iff.2 (ht.mem_resolutions_iff.1 hr).1
    have hdone := ht.mem_done hv hentered hbelow Visit.noConfusion
    have hwritten := (ha.mem_items _).2 ⟨_, hdone, own, ⟨site.index, hr, hown⟩, rfl⟩
    exact Head.precedes_of_front hfront hwritten hnew hitem
  · intro t' inner hs' hbelow hne
    obtain ⟨site, hr⟩ := ht.exists_isConsolidated_iff.1 ⟨inner, hs'⟩
    have hdone := ht.mem_done hv (ht.leave_mem_visits_of_delegated hr) hbelow
      fun he => hne (Visit.leave.inj he)
    have hwritten := (ha.mem_items _).2 ⟨_, hdone, inner, ⟨t'.index, hs'⟩, rfl⟩
    exact Head.precedes_of_front hfront hwritten hnew hitem

def focusListener : Listener :=
  { saveListener with event := "focus" }

def blurListener : Listener :=
  { saveListener with event := "blur" }

/-- The page `sample` with an icon on the button, which binds its blur alone and leaves its focus to
the button. -/
def sampleNested : Page :=
  [Operation.addComponent 2 "icon", .attach 2 (.delegator ⟨"focus"⟩) ⟨"focus", rfl⟩,
    .attach 3 (.listener focusListener) ⟨"focus", rfl⟩,
    .attach 3 (.listener blurListener) ⟨"blur", rfl⟩].foldl Operation.run sample

/-- The form's script stands behind the two scripts below it. -/
theorem sampleNested_renderHead_orders :
    ∃ head own inner outer, sampleNested.renderHead {} = .ok head ∧
      sampleNested.IsOwnScript {} ⟨3, 1⟩ own ∧
      sampleNested.IsConsolidated {} head.resolutions ⟨2, 1⟩ inner ∧
      sampleNested.IsConsolidated {} head.resolutions ⟨1, 0⟩ outer ∧
      head.head.Precedes (.ready own) (.ready outer) ∧
      head.head.Precedes (.ready inner) (.ready outer) := by
  have hp : sampleNested.Reachable := ReachableBy.foldl sample_reachable fun _ _ => trivial
  have ht : sampleNested.IsTree := hp.isTree
  obtain ⟨head, hhead, -, horder⟩ := hp.renderHead_orders {}
  have hrs : head.resolutions = sampleNested.resolutions {} := ht.resolutions_of_renderHead hhead
  have hall : sampleNested.resolutions {} =
      [(⟨2, 0⟩, .delegated ⟨1, 0⟩), (⟨3, 0⟩, .delegated ⟨2, 1⟩), (⟨3, 1⟩, .direct)] := by
    decide +kernel
  have hbutton : sampleNested.InSubtree 2 1 :=
    Relation.ReflTransGen.single (by decide +kernel : sampleNested.parent? 2 = some 1)
  have hicon : sampleNested.InSubtree 3 1 :=
    Relation.ReflTransGen.head (by decide +kernel : sampleNested.parent? 3 = some 2) hbutton
  have hfocus : (⟨3, 0⟩, .delegated ⟨2, 1⟩) ∈ sampleNested.resolutions {} := by
    rw [hall]
    exact List.mem_cons_of_mem _ List.mem_cons_self
  have hclick : (⟨2, 0⟩, .delegated ⟨1, 0⟩) ∈ sampleNested.resolutions {} := by
    rw [hall]
    exact List.mem_cons_self
  have hblur : (⟨3, 1⟩, .direct) ∈ sampleNested.resolutions {} := by
    rw [hall]
    exact List.mem_of_mem_getLast? rfl
  obtain ⟨-, l, hl, -⟩ := ht.mem_resolutions_iff.1 hblur
  obtain ⟨own, hown⟩ := ht.exists_isOwnScript {} hl
  obtain ⟨inner, hinner⟩ := ht.exists_isConsolidated_iff.2 ⟨_, hfocus⟩
  obtain ⟨outer, houter⟩ := ht.exists_isConsolidated_iff.2 ⟨_, hclick⟩
  rw [← hrs] at hinner houter hblur
  obtain ⟨hdirect, hdelegators⟩ := horder ⟨1, 0⟩ outer houter
  exact ⟨head, own, inner, outer, hhead, hown, hinner, houter,
    hdirect ⟨3, 1⟩ own hblur hicon hown, hdelegators ⟨2, 1⟩ inner hinner hbutton (by decide)⟩

end Page

end PageListeners
