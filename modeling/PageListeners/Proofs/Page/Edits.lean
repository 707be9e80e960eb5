import PageListeners.Dispatch

/-!
# What an edit does

Each edit either is refused, and then the page stays as it is, or its work is done completely. The
pages that the edits lead to are written here as functions of the page before.
-/

namespace PageListeners

namespace Behavior

def enter : Behavior → Registry → Registry
  | listener _, r => r
  | delegator d, r => r.register d.event

def leave : Behavior → Registry → Registry
  | listener _, r => r
  | delegator d, r => r.unregister d.event

end Behavior

namespace Page

variable {p : Page} {g h : Handle} {c : Component} {markupId : String} {except? : Option Handle}

def newComponent (p : Page) (parent : Handle) (id : String) : Component :=
  { id := id, parent := some parent, markupId := numbered id (p.freeNumber id) }

def grow (p : Page) (parent : Handle) (id : String) : Page :=
  { p with
    nextNumber := p.freeNumber id + 1
    slots := p.slots.push (some (p.newComponent parent id)) }.update parent
      fun c => { c with children := c.children ++ [p.slots.size] }

def cut (p : Page) (h : Handle) (parent : Option Handle) : Page :=
  match parent with
  | none => p.prune h
  | some g => (p.prune h).update g fun c => { c with children := c.children.filter (· ≠ h) }

def withBehavior (p : Page) (h : Handle) (b : Behavior) : Page :=
  { p with delegations := b.enter p.delegations }.update h
    fun c => { c with outputMarkupId := true, behaviors := c.behaviors ++ [b] }

def withoutBehavior (p : Page) (h : Handle) (index : Nat) (b : Behavior) : Page :=
  { p.update h fun c => { c with behaviors := c.behaviors.eraseIdx index } with
    delegations := b.leave p.delegations }

def additionFault? (p : Page) (parent : Handle) (id : String) : Option Error :=
  if id = "" then some (.invalidArgument .emptyComponentId)
  else if id.toList.any fun a => a == ':' || Text.isBlank a then
    some (.invalidArgument (.malformedComponentId id))
  else
    match p.component? parent with
    | none => some (.componentNotFound (.component parent))
    | some c =>
      if (p.childNamed? c id).isSome then
        some (.duplicateComponent ((p.path? parent).getD "") id)
      else none

def markupIdFault? (p : Page) (h : Handle) (markupId : String) : Option Error :=
  if markupId = "" then some (.invalidArgument .emptyMarkupId)
  else
    match p.component? h with
    | none => some (.componentNotFound (.component h))
    | some _ =>
      if p.usesMarkupId markupId (some h) then some (.duplicateMarkupId markupId) else none

theorem usesMarkupId_eq_false_iff : p.usesMarkupId markupId except? = false ↔
    ∀ g, p.markupId? g = some markupId → some g = except? := by
  simp only [usesMarkupId, List.any_eq_false, Prod.forall, mem_components, Bool.and_eq_true,
    bne_iff_ne, beq_iff_eq, not_and, markupId?, Option.map_eq_some_iff]
  constructor
  · rintro hfree g ⟨c, hc, hm⟩
    exact Decidable.byContradiction fun hne => hfree g c hc hne hm
  · intro hfree g c hc hne hm
    exact hne (hfree g ⟨c, hc, hm⟩)

theorem markupIdFault?_eq_none_iff : p.markupIdFault? h markupId = none ↔
    markupId ≠ "" ∧ p.isLive h = true ∧ ∀ g, p.markupId? g = some markupId → g = h := by
  have hfree : p.usesMarkupId markupId (some h) = false ↔
      ∀ g, p.markupId? g = some markupId → g = h := by
    simp only [usesMarkupId_eq_false_iff, Option.some.injEq]
  rw [markupIdFault?, isLive, ← hfree]
  by_cases hempty : markupId = ""
  · simp [hempty]
  · cases hc : p.component? h <;> simp [hempty]

theorem component?_congr {q : Page} (hs : q.slots = p.slots) (h : Handle) :
    q.component? h = p.component? h := by
  rw [component?, component?, hs]

theorem lt_size_of_live (hc : p.component? h = some c) : h < p.slots.size := by
  apply Nat.lt_of_not_le
  intro hge
  rw [component?, Array.getElem?_eq_none hge] at hc
  cases hc

theorem component?_push {q : Page} {x : Component} (hs : q.slots = p.slots.push (some x))
    (h : Handle) :
    q.component? h = if h = p.slots.size then some x else p.component? h := by
  rw [component?, component?, hs, Array.getElem?_push]
  by_cases hh : h = p.slots.size
  · rw [if_pos hh, if_pos hh]
    rfl
  · rw [if_neg hh, if_neg hh]

theorem component?_withBehavior (p : Page) (h : Handle) (b : Behavior) (g : Handle) :
    (p.withBehavior h b).component? g =
      if g = h then
        (p.component? h).map fun c =>
          { c with outputMarkupId := true, behaviors := c.behaviors ++ [b] }
      else p.component? g := by
  rw [withBehavior, component?_update]
  rfl

theorem component?_withoutBehavior (p : Page) (h : Handle) (index : Nat) (b : Behavior)
    (g : Handle) :
    (p.withoutBehavior h index b).component? g =
      if g = h then
        (p.component? h).map fun c => { c with behaviors := c.behaviors.eraseIdx index }
      else p.component? g := by
  rw [← component?_update]
  rfl

end Page

namespace Edit

variable (p : Page)

open Page

theorem apply_shownPath (h : Handle) : (shownPath h).apply p = (.ok ((p.path? h).getD ""), p) := by
  simp only [shownPath, Change.apply_bind, Change.apply_get, Change.apply_pure]

theorem apply_changeRegistry (f : Registry → Registry) :
    (changeRegistry f).apply p = (.ok ⟨⟩, { p with delegations := f p.delegations }) := rfl

theorem apply_generateMarkupId (id : String) :
    (generateMarkupId id).apply p =
      (.ok (numbered id (p.freeNumber id)), { p with nextNumber := p.freeNumber id + 1 }) := by
  simp only [generateMarkupId, Change.apply_bind, Change.apply_get, Change.apply_modify,
    Change.apply_pure]

theorem apply_addComponent (parent : Handle) (id : String) :
    (addComponent parent id).apply p =
      match p.additionFault? parent id with
      | some e => (.error e, p)
      | none => (.ok p.slots.size, p.grow parent id) := by
  unfold addComponent checkComponentId additionFault?
  by_cases hempty : id = ""
  · simp [hempty]
  · by_cases hchars : id.toList.any fun a => a == ':' || Text.isBlank a
    · simp only [Change.apply_bind, hempty, hchars, if_true, if_false, Change.apply_throw]
    · simp only [Change.apply_bind, hempty, hchars, if_false, Change.apply_pure, apply_component,
        Bool.false_eq_true]
      cases hc : p.component? parent with
      | none => rfl
      | some c =>
          simp only [Change.apply_get]
          by_cases hdup : (p.childNamed? c id).isSome
          · simp only [hdup, if_true, Change.apply_bind, apply_shownPath, Change.apply_throw]
          · have hlive : (Page.mk p.id (p.slots.push (some (p.newComponent parent id)))
                p.delegations p.metadata p.parameters (p.freeNumber id + 1)).component? parent =
                some c := by
              rw [component?_push rfl, if_neg (Nat.ne_of_lt (lt_size_of_live hc)), hc]
            simp only [hdup, if_false, Change.apply_bind, Change.apply_pure, apply_generateMarkupId,
              Change.apply_get, Change.apply_modify, apply_change, Bool.false_eq_true]
            simp only [newComponent] at hlive
            rw [hlive]
            rfl

/-- The parent is asked for once more after the component is gone. -/
theorem apply_removeComponent {h : Handle} {c : Component} (hne : h ≠ root)
    (hc : p.component? h = some c)
    (hparent : ∀ g, c.parent = some g → ∃ d, (p.prune h).component? g = some d) :
    (removeComponent h).apply p = (.ok ⟨⟩, p.cut h c.parent) := by
  unfold removeComponent cut
  simp only [Change.apply_bind, if_neg hne, apply_component, hc, Change.apply_modify]
  cases hg : c.parent with
  | none => rfl
  | some g =>
      obtain ⟨d, hd⟩ := hparent g hg
      simp only [apply_change, hd]

theorem apply_removeComponent_root :
    (removeComponent root).apply p = (.error (.invalidArgument .pageRemoval), p) := by
  simp [removeComponent]

theorem apply_removeComponent_dead {h : Handle} (hne : h ≠ root) (hc : p.component? h = none) :
    (removeComponent h).apply p = (.error (.componentNotFound (.component h)), p) := by
  simp only [removeComponent, Change.apply_bind, if_neg hne, apply_component, hc]

theorem apply_attach (h : Handle) (b : Behavior) :
    (attach h b).apply p =
      match p.component? h with
      | some c => (.ok c.behaviors.length, p.withBehavior h b)
      | none => (.error (.componentNotFound (.component h)), p) := by
  unfold attach withBehavior
  cases hc : p.component? h with
  | none => simp only [Change.apply_bind, apply_component, hc]
  | some c =>
      have hlive : ∀ r : Registry, ({ p with delegations := r } : Page).component? h = some c :=
        fun r => hc
      cases b with
      | listener l =>
          simp only [Change.apply_bind, apply_component, hc, Change.apply_pure, apply_change]
          rfl
      | delegator d =>
          simp only [Change.apply_bind, apply_component, hc, Change.apply_pure, apply_change,
            apply_changeRegistry, hlive]
          rfl

theorem apply_detach (h : Handle) (index : Nat) :
    (detach h index).apply p =
      match p.component? h with
      | none => (.error (.componentNotFound (.component h)), p)
      | some c =>
        match c.behaviors[index]? with
        | none => (.error (.behaviorNotFound ((p.path? h).getD "") index), p)
        | some b => (.ok b, p.withoutBehavior h index b) := by
  unfold detach withoutBehavior
  cases hc : p.component? h with
  | none => simp only [Change.apply_bind, apply_component, hc]
  | some c =>
      cases hb : c.behaviors[index]? with
      | none =>
          simp only [Change.apply_bind, apply_component, hc, hb, apply_shownPath,
            Change.apply_throw]
      | some b =>
          cases b with
          | listener l =>
              simp only [Change.apply_bind, apply_component, hc, hb, Change.apply_pure,
                apply_change]
              rfl
          | delegator d =>
              simp only [Change.apply_bind, apply_component, hc, hb, Change.apply_pure,
                apply_change, apply_changeRegistry]
              rfl

theorem apply_setMarkupId (h : Handle) (markupId : String) :
    (setMarkupId h markupId).apply p =
      match p.markupIdFault? h markupId with
      | some e => (.error e, p)
      | none => (.ok ⟨⟩, p.update h fun c => { c with markupId := markupId }) := by
  unfold setMarkupId markupIdFault?
  by_cases hempty : markupId = ""
  · simp [hempty]
  · cases hc : p.component? h with
    | none => simp only [Change.apply_bind, if_neg hempty, apply_component, hc]
    | some c =>
        by_cases hused : p.usesMarkupId markupId (some h)
        · simp only [Change.apply_bind, if_neg hempty, apply_component, hc, Change.apply_get,
            if_pos hused, Change.apply_throw]
        · simp only [Change.apply_bind, if_neg hempty, apply_component, hc, Change.apply_get,
            if_neg hused, apply_change]

/-- The handler works on a draft of its own, and the page takes over only the parameters. -/
theorem apply_dispatch (settings : Settings) (query : String) :
    (dispatch settings query).apply p =
      match p.authorize settings (.ofQuery query) with
      | .error e => (.error e, p)
      | .ok l =>
        let draft := l.handler { parameters := settings.unreserved (.ofQuery query) }
        (.ok (p.reply draft), { p with parameters := draft.parameters }) := by
  simp only [dispatch, Change.apply_bind, Change.apply_get]
  cases p.authorize settings (.ofQuery query) with
  | error e => rfl
  | ok l => rfl

end Edit

end PageListeners
