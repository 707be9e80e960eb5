import PageListeners.Proofs.Page.TreeEdits

/-!
# Reachable pages

A page comes about from a new one by operations, of which some may be refused. `Step` lists what a
single operation can do to a page, and every reachable page is a tree.
-/

namespace PageListeners

/-- Behaviors are made for an event, which gets its name then. -/
def Behavior.IsNamed (b : Behavior) : Prop :=
  ∃ event, eventName event = .ok b.event

inductive Operation where
  | addComponent (parent : Handle) (id : String)
  | removeComponent (h : Handle)
  | attach (h : Handle) (b : Behavior) (named : b.IsNamed)
  | detach (h : Handle) (index : Nat)
  | setEnabled (h : Handle) (enabled : Bool)
  | setVisible (h : Handle) (visible : Bool)
  | setOutputMarkupId (h : Handle) (output : Bool)
  | setMarkupId (h : Handle) (markupId : String)
  | setParameters (parameters : Parameters)
  | dispatch (settings : Settings) (query : String)
  | changeMetadata (f : Metadata → Metadata)
  /-- Goes past the counting of delegators. -/
  | changeRegistry (f : Registry → Registry)

namespace Operation

def run (p : Page) : Operation → Page
  | addComponent parent id => ((Edit.addComponent parent id).apply p).2
  | removeComponent h => ((Edit.removeComponent h).apply p).2
  | attach h b _ => ((Edit.attach h b).apply p).2
  | detach h index => ((Edit.detach h index).apply p).2
  | setEnabled h enabled => ((Edit.setEnabled h enabled).apply p).2
  | setVisible h visible => ((Edit.setVisible h visible).apply p).2
  | setOutputMarkupId h output => ((Edit.setOutputMarkupId h output).apply p).2
  | setMarkupId h markupId => ((Edit.setMarkupId h markupId).apply p).2
  | setParameters parameters => ((Edit.setParameters parameters).apply p).2
  | dispatch settings query => ((Edit.dispatch settings query).apply p).2
  | changeMetadata f => { p with metadata := f p.metadata }
  | changeRegistry f => ((Edit.changeRegistry f).apply p).2

/-- Leaves the counting of delegators to the edits. -/
def KeepsCount : Operation → Prop
  | changeRegistry _ => False
  | _ => True

end Operation

namespace Page

inductive ReachableBy (allowed : Operation → Prop) : Page → Prop where
  | new (id : Nat) (parameters : Parameters) : ReachableBy allowed (Page.new id parameters)
  | step {p : Page} {op : Operation} (hp : ReachableBy allowed p) (ho : allowed op) :
    ReachableBy allowed (op.run p)

def Reachable (p : Page) : Prop :=
  ReachableBy (fun _ => True) p

variable {p q : Page} {g h : Handle} {c : Component}

/-- What an operation can do to a page, changes of the registry by hand aside. -/
inductive Step (p : Page) : Page → Prop where
  | stay : Step p p
  | grow {parent : Handle} {c : Component} {id : String} (hc : p.component? parent = some c)
    (hfree : p.childNamed? c id = none) (hid : FitsPath id) : Step p (p.grow parent id)
  | cut {h : Handle} {c : Component} (hne : h ≠ root) (hc : p.component? h = some c) :
    Step p (p.cut h c.parent)
  | attach {h : Handle} {c : Component} {b : Behavior} (hc : p.component? h = some c)
    (hb : b.IsNamed) : Step p (p.withBehavior h b)
  | detach {h : Handle} {c : Component} {index : Nat} {b : Behavior}
    (hc : p.component? h = some c) (hb : c.behaviors[index]? = some b) :
    Step p (p.withoutBehavior h index b)
  | enabled (h : Handle) (b : Bool) : Step p (p.update h fun c => { c with enabled := b })
  | visible (h : Handle) (b : Bool) : Step p (p.update h fun c => { c with visible := b })
  | output (h : Handle) (b : Bool) : Step p (p.update h fun c => { c with outputMarkupId := b })
  | markupId {h : Handle} {markupId : String} (hm : p.markupIdFault? h markupId = none) :
    Step p (p.update h fun c => { c with markupId := markupId })
  | parameters (ps : Parameters) : Step p { p with parameters := ps }
  | metadata (m : Metadata) : Step p { p with metadata := m }

theorem additionFault?_eq_none_iff {parent : Handle} {id : String} :
    p.additionFault? parent id = none ↔
      FitsPath id ∧ ∃ c, p.component? parent = some c ∧ p.childNamed? c id = none := by
  have hchars : (id.toList.any fun a => a == ':' || Text.isBlank a) = false ↔
      ∀ a ∈ id.toList, a ≠ ':' ∧ Text.isBlank a = false := by
    simp only [List.any_eq_false, Bool.or_eq_true, beq_iff_eq, not_or, Bool.not_eq_true, ne_eq]
  rw [additionFault?, FitsPath, ← hchars]
  by_cases hempty : id = ""
  · simp [hempty]
  · rw [if_neg hempty]
    cases id.toList.any fun a => a == ':' || Text.isBlank a with
    | true => simp
    | false => cases hc : p.component? parent <;> simp [hempty]

theorem step_change (f : Component → Component)
    (hf : Step p (p.update h f)) : Step p (((Edit.change h f).apply p).2) := by
  rw [Edit.apply_change]
  cases p.component? h with
  | none => exact .stay
  | some c => exact hf

/-- An operation on a tree makes one step, unless it changes the registry by hand. -/
theorem IsTree.step (ht : p.IsTree) (op : Operation) :
    Step p (op.run p) ∨ ∃ f, op = .changeRegistry f := by
  cases op with
  | addComponent parent id =>
      apply Or.inl
      rw [Operation.run, Edit.apply_addComponent]
      cases hf : p.additionFault? parent id with
      | some e => exact .stay
      | none =>
          obtain ⟨hid, c, hc, hfree⟩ := additionFault?_eq_none_iff.1 hf
          exact .grow hc hfree hid
  | removeComponent h =>
      apply Or.inl
      rw [Operation.run]
      rcases ht.apply_removeComponent_cases h with ⟨e, he⟩ | ⟨c, hne, hc, hcut⟩
      · rw [he]
        exact .stay
      · rw [hcut]
        exact .cut hne hc
  | attach h b named =>
      apply Or.inl
      rw [Operation.run, Edit.apply_attach]
      cases hc : p.component? h with
      | none => exact .stay
      | some c => exact .attach hc named
  | detach h index =>
      apply Or.inl
      rw [Operation.run, Edit.apply_detach]
      cases hc : p.component? h with
      | none => exact .stay
      | some c =>
          cases hb : c.behaviors[index]? with
          | none => simpa only [hb] using .stay
          | some b => simpa only [hb] using .detach hc hb
  | setEnabled h enabled => exact Or.inl (step_change _ (.enabled h enabled))
  | setVisible h visible => exact Or.inl (step_change _ (.visible h visible))
  | setOutputMarkupId h output => exact Or.inl (step_change _ (.output h output))
  | setMarkupId h markupId =>
      apply Or.inl
      rw [Operation.run, Edit.apply_setMarkupId]
      cases hm : p.markupIdFault? h markupId with
      | some e => exact .stay
      | none => exact .markupId hm
  | setParameters ps => exact Or.inl (.parameters ps)
  | dispatch settings query =>
      apply Or.inl
      rw [Operation.run, Edit.apply_dispatch]
      cases p.authorize settings (.ofQuery query) with
      | error e => exact .stay
      | ok l => exact .parameters _
  | changeMetadata f => exact Or.inl (.metadata _)
  | changeRegistry f => exact Or.inr ⟨f, rfl⟩

theorem sameShape_of_slots_eq (hs : q.slots = p.slots) : p.SameShape q :=
  .of_component?_eq (component?_congr hs)

theorem sameShape_withBehavior (p : Page) (h : Handle) (b : Behavior) :
    p.SameShape (p.withBehavior h b) := by
  have hs : p.SameShape { p with delegations := b.enter p.delegations } := sameShape_of_slots_eq rfl
  refine hs.trans (.update ?_ _ h)
  intro c
  rfl

theorem sameShape_withoutBehavior (p : Page) (h : Handle) (index : Nat) (b : Behavior) :
    p.SameShape (p.withoutBehavior h index b) := by
  have hs : p.SameShape
      (p.update h fun c => { c with behaviors := c.behaviors.eraseIdx index }) := by
    apply SameShape.update
    intro c
    rfl
  exact hs.trans (sameShape_of_slots_eq rfl)

theorem IsTree.of_step (ht : p.IsTree) (hs : Step p q) : q.IsTree := by
  cases hs with
  | stay => exact ht
  | grow hc hfree hid => exact ht.grow hc hfree hid
  | cut hne hc => exact ht.cut hne hc
  | attach _ _ => exact ht.of_sameShape (sameShape_withBehavior p _ _)
  | detach _ _ => exact ht.of_sameShape (sameShape_withoutBehavior p _ _ _)
  | enabled h b => exact ht.update fun _ => rfl
  | visible h b => exact ht.update fun _ => rfl
  | output h b => exact ht.update fun _ => rfl
  | markupId _ => exact ht.update fun _ => rfl
  | parameters ps => exact ht.of_sameShape (sameShape_of_slots_eq rfl)
  | metadata m => exact ht.of_sameShape (sameShape_of_slots_eq rfl)

theorem component?_new (id : Nat) (ps : Parameters) (h : Handle) :
    (Page.new id ps).component? h = if h = root then some (rootNode id) else none := by
  cases h with
  | zero => rfl
  | succ n =>
      have hne : n + 1 ≠ root := Nat.succ_ne_zero n
      rw [if_neg hne]
      rfl

theorem eq_root_of_new {id : Nat} {ps : Parameters} (hc : (Page.new id ps).component? h = some c) :
    h = root ∧ c = rootNode id := by
  rw [component?_new] at hc
  by_cases hr : h = root
  · rw [if_pos hr] at hc
    cases hc
    exact ⟨hr, rfl⟩
  · rw [if_neg hr] at hc
    cases hc

theorem isTree_new (id : Nat) (ps : Parameters) : (Page.new id ps).IsTree := by
  constructor
  · exact ⟨rootNode id, by rw [component?_new, if_pos rfl], rfl⟩
  · intro h c hc hne
    exact absurd (eq_root_of_new hc).1 hne
  · intro g d hd h hmem
    rw [(eq_root_of_new hd).2] at hmem
    cases hmem
  · intro g d hd
    rw [(eq_root_of_new hd).2]
    exact List.Pairwise.nil
  · intro h c h' c' hc hc' _ _
    rw [(eq_root_of_new hc).1, (eq_root_of_new hc').1]
  · intro h c hc hne
    exact absurd (eq_root_of_new hc).1 hne

theorem ReachableBy.isTree {allowed : Operation → Prop} (hp : ReachableBy allowed p) :
    p.IsTree := by
  induction hp with
  | new id ps => exact isTree_new id ps
  | @step p op _ _ ih =>
      rcases ih.step op with hs | ⟨f, rfl⟩
      · exact ih.of_step hs
      · exact ih.of_sameShape (sameShape_of_slots_eq rfl)

/-- What holds of a new page and is kept by each step holds of every reachable page, if it does not
look at the registry or the registry is not changed by hand. -/
theorem ReachableBy.induction {allowed : Operation → Prop} {P : Page → Prop}
    (hp : ReachableBy allowed p) (hnew : ∀ id ps, P (Page.new id ps))
    (hstep : ∀ {p q : Page}, p.IsTree → Step p q → P p → P q)
    (hregistry : ∀ {p : Page} {f}, allowed (.changeRegistry f) → P p →
      P { p with delegations := f p.delegations }) : P p := by
  induction hp with
  | new id ps => exact hnew id ps
  | @step p op hp ho ih =>
      rcases hp.isTree.step op with hs | ⟨f, rfl⟩
      · exact hstep hp.isTree hs ih
      · exact hregistry ho ih

theorem ReachableBy.foldl {allowed : Operation → Prop} {ops : List Operation}
    (hp : ReachableBy allowed p) (ho : ∀ op ∈ ops, allowed op) :
    ReachableBy allowed (ops.foldl Operation.run p) := by
  induction ops generalizing p with
  | nil => exact hp
  | cons op ops ih =>
      have hfirst : ReachableBy allowed (op.run p) := hp.step (ho op List.mem_cons_self)
      exact ih hfirst fun op hop => ho op (List.mem_cons_of_mem _ hop)

/-- What a step can do to the behaviors of a component. -/
theorem Step.behaviors_cases {bs : List Behavior} (hs : Step p q)
    (hq : (q.component? g).map Component.behaviors = some bs) :
    bs = [] ∨ ∃ as, (p.component? g).map Component.behaviors = some as ∧
      (bs = as ∨ (∃ b : Behavior, b.IsNamed ∧ bs = as ++ [b]) ∨ ∃ i, bs = as.eraseIdx i) := by
  have hkeep : (q.component? g).map Component.behaviors = (p.component? g).map Component.behaviors →
      ∃ as, (p.component? g).map Component.behaviors = some as ∧
        (bs = as ∨ (∃ b : Behavior, b.IsNamed ∧ bs = as ++ [b]) ∨ ∃ i, bs = as.eraseIdx i) :=
    fun he => ⟨bs, he ▸ hq, Or.inl rfl⟩
  cases hs with
  | stay => exact Or.inr (hkeep rfl)
  | grow hc _ _ =>
      rw [map_component?_grow (fun _ _ => rfl) hc] at hq
      split at hq
      · cases hq
        exact Or.inl rfl
      · exact Or.inr ⟨bs, hq, Or.inl rfl⟩
  | cut _ _ =>
      rw [map_component?_cut fun _ _ => rfl] at hq
      split at hq
      · cases hq
      · exact Or.inr ⟨bs, hq, Or.inl rfl⟩
  | @attach h c b hc hb =>
      rw [component?_withBehavior] at hq
      split at hq
      · next hg =>
        rw [hc] at hq
        cases hq
        exact Or.inr ⟨c.behaviors, by rw [hg, hc]; rfl, Or.inr (Or.inl ⟨b, hb, rfl⟩)⟩
      · exact Or.inr ⟨bs, hq, Or.inl rfl⟩
  | @detach h c index b hc hb =>
      rw [component?_withoutBehavior] at hq
      split at hq
      · next hg =>
        rw [hc] at hq
        cases hq
        exact Or.inr ⟨c.behaviors, by rw [hg, hc]; rfl, Or.inr (Or.inr ⟨index, rfl⟩)⟩
      · exact Or.inr ⟨bs, hq, Or.inl rfl⟩
  | enabled h b => exact Or.inr (hkeep (by rw [map_component?_update]; exact fun _ => rfl))
  | visible h b => exact Or.inr (hkeep (by rw [map_component?_update]; exact fun _ => rfl))
  | output h b => exact Or.inr (hkeep (by rw [map_component?_update]; exact fun _ => rfl))
  | markupId _ => exact Or.inr (hkeep (by rw [map_component?_update]; exact fun _ => rfl))
  | parameters ps => exact Or.inr (hkeep rfl)
  | metadata m => exact Or.inr (hkeep rfl)

theorem ReachableBy.isNamed {allowed : Operation → Prop} (hp : ReachableBy allowed p)
    (hc : p.component? h = some c) : ∀ b ∈ c.behaviors, b.IsNamed := by
  have hall : ∀ g bs, (p.component? g).map Component.behaviors = some bs →
      ∀ b ∈ bs, b.IsNamed := by
    refine hp.induction (P := fun p => ∀ g bs, (p.component? g).map Component.behaviors = some bs →
      ∀ b ∈ bs, b.IsNamed) ?_ ?_ fun _ ih => ih
    · intro id ps g bs hbs
      obtain ⟨c, hc, rfl⟩ := Option.map_eq_some_iff.1 hbs
      obtain ⟨-, rfl⟩ := eq_root_of_new hc
      intro b hb
      cases hb
    · intro p q _ hs ih g bs hbs
      rcases hs.behaviors_cases hbs with rfl | ⟨as, has, rfl | ⟨b, hb, rfl⟩ | ⟨i, rfl⟩⟩
      · intro b hb
        cases hb
      · exact ih g bs has
      · intro b' hb'
        rcases List.mem_append.1 hb' with hold | hnew
        · exact ih g as has b' hold
        · rw [List.mem_singleton.1 hnew]
          exact hb
      · intro b hb
        exact ih g as has b (List.mem_of_mem_eraseIdx hb)
  exact hall h c.behaviors (by rw [hc]; rfl)

def saveListener : Listener :=
  { event := "click", stateless := true,
    handler := fun d => { d.mark 2 with parameters := d.parameters.set "saved" "yes" } }

theorem saveListener_isNamed : (Behavior.listener saveListener).IsNamed :=
  ⟨"click", rfl⟩

/-- A page with a button on a form, which takes over the clicks inside it. -/
def sample : Page :=
  [Operation.addComponent root "form", .addComponent 1 "save",
    .attach 1 (.delegator ⟨"click"⟩) ⟨"click", rfl⟩,
    .attach 2 (.listener saveListener) ⟨"click", rfl⟩].foldl Operation.run
    (Page.new 7 ⟨[("q", "1")]⟩)

theorem sample_reachable : sample.Reachable :=
  ReachableBy.foldl (.new 7 _) fun _ _ => trivial

theorem sample_keepsCount : ReachableBy Operation.KeepsCount sample := by
  refine ReachableBy.foldl (.new 7 _) ?_
  simp [Operation.KeepsCount]

theorem sample_save : ∃ c, sample.component? 2 = some c ∧ c.behaviors = [.listener saveListener] :=
  ⟨_, rfl, rfl⟩

theorem sample_open : sample.isVisible 2 = true ∧ sample.isEnabled 2 = true := by
  decide +kernel

/-- The slots, the parents and the lists of children describe one tree: the page is on top, any other
component hangs in one place below an older one, and the children of one component differ in their
ids and stand in the order of their creation. So the way up ends at the page. -/
theorem Reachable.slots_form_tree (hp : p.Reachable) :
    (∃ r, p.component? root = some r ∧ r.parent = none ∧
      ∀ g d, p.component? g = some d → root ∉ d.children) ∧
    (∀ h c, p.component? h = some c → h ≠ root →
      ∃ g d, c.parent = some g ∧ g < h ∧ p.component? g = some d ∧ d.children.count h = 1 ∧
        ∀ g' d', p.component? g' = some d' → h ∈ d'.children → g' = g) ∧
    (∀ g d, p.component? g = some d → d.children.Pairwise (· < ·) ∧
      ∀ h ∈ d.children, ∃ c, p.component? h = some c ∧ c.parent = some g) ∧
    (∀ h c h' c', p.component? h = some c → p.component? h' = some c' → c.parent = c'.parent →
      h ≠ h' → c.id ≠ c'.id) ∧
    (∀ h c, p.component? h = some c → h ≠ root → FitsPath c.id) ∧
    ∀ h c, p.component? h = some c →
      p.InSubtree h root ∧ ∃ line r, p.lineage? h = some (line ++ [(root, r)]) := by
  have ht : p.IsTree := hp.isTree
  refine ⟨?_, ?_, ?_, ?_, ?_, ?_⟩
  · obtain ⟨r, hr, hn⟩ := ht.root_live
    exact ⟨r, hr, hn, fun g d hd => ht.root_not_mem_children hd⟩
  · intro h c hc hne
    obtain ⟨g, d, hg, hlt, hd, hmem⟩ := ht.exists_parent hc hne
    refine ⟨g, d, hg, hlt, hd, ht.count_children hd hmem, ?_⟩
    intro g' d' hd' hmem'
    have hparent : p.parent? h = some g := parent?_eq_some.2 ⟨c, hc, hg⟩
    rw [(ht.mem_children_iff hd').1 hmem'] at hparent
    exact Option.some.inj hparent
  · intro g d hd
    exact ⟨ht.increasing hd, ht.parent_of_child hd⟩
  · intro h c h' c' hc hc' hparent hne hid
    exact hne (ht.siblings hc hc' hparent hid)
  · intro h c hc hne
    exact ht.ids hc hne
  · intro h c hc
    exact ⟨ht.inSubtree_root hc, ht.exists_lineage_root hc⟩

/-- The button makes way for another one, and a second form is refused. -/
theorem sample_slots_form_tree :
    let p := [Operation.addComponent 1 "reset", .removeComponent 2, .addComponent 1 "save",
      .addComponent root "form"].foldl Operation.run sample
    ∃ d, p.component? 1 = some d ∧ d.children = [3, 4] ∧ d.children.count 4 = 1 ∧
      p.InSubtree 4 root := by
  intro p
  have hp : p.Reachable := ReachableBy.foldl sample_reachable fun _ _ => trivial
  have hform : (p.component? 1).map Component.children = some [3, 4] := by decide +kernel
  have hsave : p.parent? 4 = some 1 := by decide +kernel
  obtain ⟨d, hd, hchildren⟩ := Option.map_eq_some_iff.1 hform
  obtain ⟨c, hc, hparent⟩ := parent?_eq_some.1 hsave
  obtain ⟨-, hplaces, -, -, -, hup⟩ := hp.slots_form_tree
  obtain ⟨g, d', hg, -, hd', hcount, -⟩ := hplaces 4 c hc (by decide)
  rw [hparent] at hg
  cases hg
  rw [hd] at hd'
  cases hd'
  exact ⟨d, hd, hchildren, hcount, (hup 4 c hc).1⟩

end Page

end PageListeners
