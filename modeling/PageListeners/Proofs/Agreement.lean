import PageListeners.Proofs.Dispatch

/-!
# Pages that agree

Two pages agree if their live components differ in the markup ids at most. Then paths lead to the
same components, and the same components are open; and if there are only stateless behaviors, the
same requests are let in, whatever ids the pages have.
-/

namespace PageListeners

def Component.unmarked (c : Component) : Component :=
  { c with markupId := "" }

namespace Page

variable {p q : Page} {h : Handle} {c d : Component} {settings : Settings}

def Agrees (p q : Page) : Prop :=
  ∀ h, (p.component? h).map Component.unmarked = (q.component? h).map Component.unmarked

namespace Agrees

/-- What does not depend on a markup id is the same for the components of one handle. -/
theorem map_component?_eq {β : Type} {f : Component → β} (ha : p.Agrees q)
    (hf : ∀ c, f c.unmarked = f c) (h : Handle) :
    (q.component? h).map f = (p.component? h).map f :=
  map_eq_of_map_eq hf (ha h).symm

theorem sameShape (ha : p.Agrees q) : p.SameShape q :=
  fun h => (ha.map_component?_eq (f := Component.place) (fun _ => rfl) h).symm

theorem holdsUpward_eq {s : Component → Bool} (ha : p.Agrees q) (hs : ∀ c, s c.unmarked = s c)
    (h : Handle) : q.holdsUpward s h = p.holdsUpward s h := by
  apply holdsUpward_congr
  apply ha.map_component?_eq
  intro c
  rw [hs]
  rfl

theorem isStateless_eq (ha : p.Agrees q) : q.isStateless = p.isStateless :=
  isStateless_congr (ha.map_component?_eq fun _ => rfl)

theorem listenerAt_eq (ha : p.Agrees q) (a : Address) : q.listenerAt a = p.listenerAt a := by
  have hrejection : ∀ h, q.componentRejection? h = p.componentRejection? h := by
    intro h
    rw [componentRejection?, componentRejection?, isVisible, isVisible, isEnabled, isEnabled,
      ha.holdsUpward_eq (fun _ => rfl), ha.holdsUpward_eq (fun _ => rfl)]
  have hbehavior : ∀ h, (q.component? h).bind (·.behaviors[a.index]?) =
      (p.component? h).bind (·.behaviors[a.index]?) := by
    intro h
    have hbehaviors := ha.map_component?_eq (f := Component.behaviors) (fun _ => rfl) h
    have hfactor : ∀ o : Option Component, o.bind (·.behaviors[a.index]?) =
        (o.map Component.behaviors).bind (·[a.index]?) := by
      intro o
      cases o <;> rfl
    rw [hfactor, hbehaviors, ← hfactor]
  rw [listenerAt, listenerAt, ha.sameShape.find?_eq]
  simp only [hrejection, hbehavior]

/-- Pages with one id let in the same requests. -/
theorem authorize_eq_of_id (ha : p.Agrees q) (hid : q.id = p.id) (request : Parameters) :
    q.authorize settings request = p.authorize settings request := by
  have hpage : q.pageRejection? settings request = p.pageRejection? settings request := by
    rw [pageRejection?, pageRejection?, hid, ha.isStateless_eq]
  rw [authorize, authorize, hpage]
  simp only [ha.listenerAt_eq]

/-- A page with stateless behaviors only does not tell its own requests from those of another page,
as long as they do not carry an id. -/
theorem authorize_eq (ha : p.Agrees q) (hstateless : p.isStateless = true) {request : Parameters}
    (hnone : request.get? settings.pageParam = none) :
    q.authorize settings request = p.authorize settings request := by
  have hp : p.pageRejection? settings request = none :=
    pageRejection?_eq_none_iff.2 (Or.inr ⟨hnone, hstateless⟩)
  have hq : q.pageRejection? settings request = none :=
    pageRejection?_eq_none_iff.2 (Or.inr ⟨hnone, ha.isStateless_eq.trans hstateless⟩)
  simp only [authorize, hp, hq, ha.listenerAt_eq]

theorem callbackQuery_eq (ha : p.Agrees q) (hstateless : p.isStateless = true)
    (hparameters : q.parameters = p.parameters) (h : Handle) (index : Nat) :
    q.callbackQuery settings h index = p.callbackQuery settings h index := by
  simp only [callbackQuery, callbackParameters, ha.sameShape.path?_eq, ha.isStateless_eq, hstateless,
    hparameters, if_true]

end Agrees

end Page

end PageListeners
