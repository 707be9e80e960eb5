import PageListeners.Proofs.Callback
import PageListeners.Proofs.Page.Reachable

/-!
# Which requests are let in

A request is let in exactly if it leads to a listener on a component that is open up to the page,
and if it is made for this page. Everything else leaves the page as it is. The request of a callback
URL leads back to the listener that the URL was made for, and unless the page is stateless it leads
nowhere on other pages.
-/

namespace PageListeners

namespace Page

variable {p : Page} {settings : Settings} {request : Parameters} {h : Handle} {c : Component}
  {a : Address} {l : Listener}

/-- The request names the listener `l` at `index` on `h`, and nothing speaks against it. -/
structure Admits (p : Page) (settings : Settings) (request : Parameters) (h : Handle) (index : Nat)
    (l : Listener) : Prop where
  addressed : ∃ text path, request.get? settings.listenerParam = some text ∧
    p.path? h = some path ∧ Address.parse text = .ok ⟨path, index⟩
  open_upward : ∀ a, p.InSubtree h a →
    ∃ d, p.component? a = some d ∧ d.visible = true ∧ d.enabled = true
  listener : ∃ c, p.component? h = some c ∧ c.behaviors[index]? = some (.listener l)
  current : request.get? settings.pageParam = some (toString p.id) ∨
    request.get? settings.pageParam = none ∧
      ∀ g d, p.component? g = some d → ∀ b ∈ d.behaviors, b.isStateless = true

theorem isStateless_iff : p.isStateless = true ↔
    ∀ g d, p.component? g = some d → ∀ b ∈ d.behaviors, b.isStateless = true := by
  simp only [isStateless, List.all_eq_true, Prod.forall, mem_components]

theorem isStateless_congr {q : Page}
    (hpq : ∀ h, (q.component? h).map Component.behaviors =
      (p.component? h).map Component.behaviors) : q.isStateless = p.isStateless := by
  have hle : ∀ {r t : Page}, (∀ h, (t.component? h).map Component.behaviors =
      (r.component? h).map Component.behaviors) → r.isStateless = true → t.isStateless = true := by
    intro r t hrt hs
    rw [isStateless_iff] at hs ⊢
    intro g d hd b hb
    have hbehaviors := hrt g
    rw [hd, Option.map_some] at hbehaviors
    obtain ⟨c, hc, he⟩ := Option.map_eq_some_iff.1 hbehaviors.symm
    exact hs g c hc b (he ▸ hb)
  rw [Bool.eq_iff_iff]
  exact ⟨hle fun h => (hpq h).symm, hle hpq⟩

theorem requestedAddress_eq_ok_iff : requestedAddress settings request = .ok a ↔
    ∃ text, request.get? settings.listenerParam = some text ∧ Address.parse text = .ok a := by
  unfold requestedAddress
  cases request.get? settings.listenerParam with
  | none => simp
  | some text => simp

theorem pageRejection?_eq_none_iff : p.pageRejection? settings request = none ↔
    request.get? settings.pageParam = some (toString p.id) ∨
      request.get? settings.pageParam = none ∧ p.isStateless = true := by
  unfold pageRejection?
  cases request.get? settings.pageParam with
  | none => simp
  | some id => simp

theorem componentRejection?_eq_none_iff :
    p.componentRejection? h = none ↔ p.isVisible h = true ∧ p.isEnabled h = true := by
  unfold componentRejection?
  cases p.isVisible h with
  | false => simp
  | true => simp

theorem listenerAt_eq_ok_iff : p.listenerAt a = .ok l ↔
    ∃ h c, p.find? a.path = some h ∧ (p.isVisible h = true ∧ p.isEnabled h = true) ∧
      p.component? h = some c ∧ c.behaviors[a.index]? = some (.listener l) := by
  have hlistener : ∀ h,
      (∃ c, p.component? h = some c ∧ c.behaviors[a.index]? = some (.listener l)) ↔
        (p.component? h).bind (·.behaviors[a.index]?) = some (.listener l) := by
    intro h
    rw [Option.bind_eq_some_iff]
  unfold listenerAt
  cases hf : p.find? a.path with
  | none => simp
  | some h =>
      simp only [Option.some.injEq, exists_and_left, exists_eq_left', hlistener,
        ← componentRejection?_eq_none_iff]
      cases p.componentRejection? h with
      | some cause => simp
      | none =>
          cases (p.component? h).bind (·.behaviors[a.index]?) with
          | none => simp
          | some b =>
              cases b with
              | listener k => simp [Behavior.listener?]
              | delegator d => simp [Behavior.listener?]

theorem authorize_eq_ok_iff : p.authorize settings request = .ok l ↔
    ∃ a, requestedAddress settings request = .ok a ∧ p.pageRejection? settings request = none ∧
      p.listenerAt a = .ok l := by
  unfold authorize
  cases requestedAddress settings request with
  | error e => simp
  | ok a =>
      cases p.pageRejection? settings request with
      | some cause => simp
      | none => simp

namespace IsTree

theorem live_above (ht : p.IsTree) {a : Handle} (hc : p.component? h = some c)
    (ha : p.InSubtree h a) : ∃ d, p.component? a = some d := by
  rcases inSubtree_iff_eq_or_child.1 ha with rfl | ⟨k, -, hk⟩
  · exact ⟨c, hc⟩
  · exact ht.parent_live hk

theorem open_upward_iff (ht : p.IsTree) (hc : p.component? h = some c) :
    (∀ a, p.InSubtree h a → ∃ d, p.component? a = some d ∧ d.visible = true ∧ d.enabled = true) ↔
      p.isVisible h = true ∧ p.isEnabled h = true := by
  rw [isVisible, isEnabled, ht.holdsUpward_iff _ hc, ht.holdsUpward_iff _ hc]
  constructor
  · intro hopen
    constructor
    · intro a d ha hd
      obtain ⟨d', hd', hvisible, -⟩ := hopen a ha
      rw [hd] at hd'
      cases hd'
      exact hvisible
    · intro a d ha hd
      obtain ⟨d', hd', -, henabled⟩ := hopen a ha
      rw [hd] at hd'
      cases hd'
      exact henabled
  · rintro ⟨hvisible, henabled⟩ a ha
    obtain ⟨d, hd⟩ := ht.live_above hc ha
    exact ⟨d, hd, hvisible a d ha hd, henabled a d ha hd⟩

theorem authorize_eq_ok_iff_admits (ht : p.IsTree) :
    p.authorize settings request = .ok l ↔ ∃ h index, p.Admits settings request h index l := by
  rw [authorize_eq_ok_iff]
  constructor
  · rintro ⟨a, haddress, hpage, hlistener⟩
    obtain ⟨text, htext, hparse⟩ := requestedAddress_eq_ok_iff.1 haddress
    obtain ⟨h, c, hfind, hopen, hc, hl⟩ := listenerAt_eq_ok_iff.1 hlistener
    refine ⟨h, a.index, ⟨text, a.path, htext, ht.find?_iff_path?.1 hfind, hparse⟩,
      (ht.open_upward_iff hc).2 hopen, ⟨c, hc, hl⟩, ?_⟩
    rw [← isStateless_iff]
    exact pageRejection?_eq_none_iff.1 hpage
  · rintro ⟨h, index, ⟨text, path, htext, hpath, hparse⟩, hopen, ⟨c, hc, hl⟩, hcurrent⟩
    rw [← isStateless_iff] at hcurrent
    refine ⟨⟨path, index⟩, requestedAddress_eq_ok_iff.2 ⟨text, htext, hparse⟩,
      pageRejection?_eq_none_iff.2 hcurrent, listenerAt_eq_ok_iff.2 ?_⟩
    exact ⟨h, c, ht.find?_iff_path?.2 hpath, (ht.open_upward_iff hc).1 hopen, hc, hl⟩

end IsTree

/-- A request that carries an address, and the page's id where it is asked for, passes every check
that does not look at the listener. -/
theorem authorize_of_get? (p : Page) (ha : a.index < 1 <<< 64)
    (haddress : request.get? settings.listenerParam = some a.text)
    (hpage : request.get? settings.pageParam =
      if p.isStateless then none else some (toString p.id)) :
    p.authorize settings request = p.listenerAt a := by
  have hrequested : requestedAddress settings request = .ok a :=
    requestedAddress_eq_ok_iff.2 ⟨a.text, haddress, Address.parse_text ha⟩
  have hcurrent : p.pageRejection? settings request = none := by
    rw [pageRejection?_eq_none_iff, hpage]
    cases p.isStateless with
    | true => exact Or.inr ⟨rfl, rfl⟩
    | false => exact Or.inl rfl
  rw [authorize, hrequested]
  simp only [hcurrent]

theorem authorize_callbackParameters (p : Page) (hne : settings.listenerParam ≠ settings.pageParam)
    (ha : a.index < 1 <<< 64) :
    p.authorize settings (p.callbackParameters settings a) = p.listenerAt a :=
  p.authorize_of_get? ha (p.get?_listenerParam_callbackParameters a hne)
    (p.get?_pageParam_callbackParameters a hne)

/-- A request with the id of another page is turned away, whatever its address leads to. -/
theorem authorize_of_expired {page : String} (ha : a.index < 1 <<< 64)
    (haddress : request.get? settings.listenerParam = some a.text)
    (hpage : request.get? settings.pageParam = some page) (hother : page ≠ toString p.id) :
    p.authorize settings request = .error (.listenerRejected a.path (.expiredPage page)) := by
  have hrequested : requestedAddress settings request = .ok a :=
    requestedAddress_eq_ok_iff.2 ⟨a.text, haddress, Address.parse_text ha⟩
  have hexpired : p.pageRejection? settings request = some (.expiredPage page) := by
    rw [pageRejection?, hpage]
    exact if_neg hother
  rw [authorize, hrequested]
  simp only [hexpired]

/-- A request that is let in runs its handler on a fresh draft, and then the page has the parameters
that the handler leaves. Any other request is refused and changes nothing. -/
theorem Reachable.dispatch_exact (hp : p.Reachable) (settings : Settings) (query : String) :
    ((∃ r q, (Edit.dispatch settings query).apply p = (.ok r, q)) ↔
      ∃ h index l, p.Admits settings (.ofQuery query) h index l) ∧
    (∀ h index l, p.Admits settings (.ofQuery query) h index l →
      let draft := l.handler { parameters := ⟨(Query.decode query).filter fun e =>
        e.1 ≠ settings.listenerParam ∧ e.1 ≠ settings.pageParam⟩ }
      (Edit.dispatch settings query).apply p =
        (.ok ⟨draft.marked.filterMap p.markupId?, draft.scripts, draft.parameters⟩,
          { p with parameters := draft.parameters })) ∧
    ∀ e q, (Edit.dispatch settings query).apply p = (.error e, q) → q = p := by
  have ht : p.IsTree := hp.isTree
  have hfresh : settings.unreserved (.ofQuery query) = ⟨(Query.decode query).filter fun e =>
      e.1 ≠ settings.listenerParam ∧ e.1 ≠ settings.pageParam⟩ := settings.unreserved_eq_filter _
  rw [Edit.apply_dispatch, hfresh]
  refine ⟨⟨?_, ?_⟩, ?_, ?_⟩
  · rintro ⟨r, q, hr⟩
    cases hl : p.authorize settings (.ofQuery query) with
    | error e => simp [hl] at hr
    | ok l =>
        obtain ⟨h, index, hadmits⟩ := ht.authorize_eq_ok_iff_admits.1 hl
        exact ⟨h, index, l, hadmits⟩
  · rintro ⟨h, index, l, hadmits⟩
    rw [ht.authorize_eq_ok_iff_admits.2 ⟨h, index, hadmits⟩]
    exact ⟨_, _, rfl⟩
  · intro h index l hadmits
    rw [ht.authorize_eq_ok_iff_admits.2 ⟨h, index, hadmits⟩]
    rfl
  · intro e q he
    cases hl : p.authorize settings (.ofQuery query) with
    | error e' =>
        rw [hl] at he
        cases he
        rfl
    | ok l => simp [hl] at he

theorem sample_admits :
    sample.Admits {} (.ofQuery "q=2&_listener=form%3Asave%3A0&_listener=%3A1") 2 0
      saveListener := by
  have hpath : sample.path? 2 = some "form:save" := by decide +kernel
  obtain ⟨c, hc, hbehaviors⟩ := sample_save
  have htext : (Parameters.ofQuery "q=2&_listener=form%3Asave%3A0&_listener=%3A1").get?
      "_listener" = some "form:save:0" := by decide +kernel
  have hpage : (Parameters.ofQuery "q=2&_listener=form%3Asave%3A0&_listener=%3A1").get?
      "_page" = none := by decide +kernel
  refine ⟨⟨_, _, htext, hpath, rfl⟩, (sample_reachable.isTree.open_upward_iff hc).2 sample_open,
    ⟨c, hc, by rw [hbehaviors]; rfl⟩, Or.inr ⟨hpage, isStateless_iff.1 (by decide +kernel)⟩⟩

theorem sample_dispatch_exact :
    ∃ r q, (Edit.dispatch {} "q=2&_listener=form%3Asave%3A0&_listener=%3A1").apply sample =
      (.ok r, q) :=
  (sample_reachable.dispatch_exact {} _).1.2 ⟨2, 0, saveListener, sample_admits⟩

/-- The request of a callback URL runs the handler that the URL was made for, on the parameters of
the page without the reserved names. -/
theorem Reachable.dispatch_callbackUrl (hp : p.Reachable)
    (hne : settings.listenerParam ≠ settings.pageParam) (index : UInt64)
    (hc : p.component? h = some c) (hl : c.behaviors[index.toNat]? = some (.listener l))
    (hvisible : p.isVisible h = true) (henabled : p.isEnabled h = true) :
    ∃ query, p.callbackUrl settings h index.toNat = .ok (settings.callbackPath ++ "?" ++ query) ∧
      let draft := l.handler { parameters := ⟨p.parameters.entries.filter fun e =>
        e.1 ≠ settings.listenerParam ∧ e.1 ≠ settings.pageParam⟩ }
      (Edit.dispatch settings query).apply p =
        (.ok ⟨draft.marked.filterMap p.markupId?, draft.scripts, draft.parameters⟩,
          { p with parameters := draft.parameters }) := by
  have ht : p.IsTree := hp.isTree
  obtain ⟨path, hpath⟩ := ht.exists_path hc
  refine ⟨_, callbackUrl_of_path? hpath settings index.toNat, ?_⟩
  have hlistener : p.listenerAt ⟨path, index.toNat⟩ = .ok l :=
    listenerAt_eq_ok_iff.2 ⟨h, c, ht.find?_iff_path?.2 hpath, ⟨hvisible, henabled⟩, hc, hl⟩
  rw [Edit.apply_dispatch, Parameters.ofQuery_toQuery,
    p.authorize_callbackParameters hne index.toNat_lt, hlistener,
    p.unreserved_callbackParameters, settings.unreserved_eq_filter]
  rfl

theorem sample_dispatch_callbackUrl :
    ∃ query, sample.callbackUrl {} 2 0 = .ok ("./?" ++ query) ∧
      (Edit.dispatch {} query).apply sample =
        (.ok ⟨["save_2"], [], ⟨[("q", "1"), ("saved", "yes")]⟩⟩,
          { sample with parameters := ⟨[("q", "1"), ("saved", "yes")]⟩ }) := by
  obtain ⟨c, hc, hbehaviors⟩ := sample_save
  have hl : c.behaviors[(0 : UInt64).toNat]? = some (.listener saveListener) := by
    rw [hbehaviors]
    rfl
  exact sample_reachable.dispatch_callbackUrl (by decide) 0 hc hl sample_open.1 sample_open.2

/-- The callback URLs of a page that is not stateless are refused by every page with another id, even
if the page has parameters of its own under the reserved names, or the other page is stateless. -/
theorem Reachable.dispatch_elsewhere (hp : p.Reachable) {q : Page} (hid : p.id ≠ q.id)
    (hne : settings.listenerParam ≠ settings.pageParam)
    (hstateful : ∃ g d, p.component? g = some d ∧ ∃ b ∈ d.behaviors, b.isStateless = false)
    (hc : p.component? h = some c) (index : UInt64) :
    ∃ path query, p.path? h = some path ∧
      p.callbackUrl settings h index.toNat = .ok (settings.callbackPath ++ "?" ++ query) ∧
      (Edit.dispatch settings query).apply q =
        (.error (.listenerRejected path (.expiredPage (toString p.id))), q) := by
  obtain ⟨path, hpath⟩ := hp.isTree.exists_path hc
  refine ⟨path, _, hpath, callbackUrl_of_path? hpath settings index.toNat, ?_⟩
  have hremembers : p.isStateless = false := by
    obtain ⟨g, d, hd, b, hb, hkeeps⟩ := hstateful
    rw [← Bool.not_eq_true, isStateless_iff]
    intro hall
    rw [hall g d hd b hb] at hkeeps
    cases hkeeps
  have hpage := p.get?_pageParam_callbackParameters ⟨path, index.toNat⟩ hne
  rw [hremembers] at hpage
  have hother : toString p.id ≠ toString q.id := fun he => hid (Nat.repr_inj.1 he)
  rw [Edit.apply_dispatch, Parameters.ofQuery_toQuery, authorize_of_expired index.toNat_lt
    (p.get?_listenerParam_callbackParameters _ hne) hpage hother]

/-- Pages with the same components, of which the button is not stateless. Their own parameters name
another page. -/
def sampleSession (id : Nat) : Page :=
  [Operation.addComponent root "form", .addComponent 1 "save",
    .attach 2 (.listener { saveListener with stateless := false }) ⟨"click", rfl⟩].foldl
    Operation.run (Page.new id ⟨[("_page", "9"), ("q", "1"), ("_listener", ":0")]⟩)

theorem sample_dispatch_elsewhere :
    ∃ query, (sampleSession 7).callbackUrl {} 2 0 = .ok ("./?" ++ query) ∧
      (Edit.dispatch {} query).apply (sampleSession 9) =
        (.error (.listenerRejected "form:save" (.expiredPage "7")), sampleSession 9) := by
  have hp : (sampleSession 7).Reachable := ReachableBy.foldl (.new 7 _) fun _ _ => trivial
  have hc : ∃ c, (sampleSession 7).component? 2 = some c ∧
      c.behaviors = [.listener { saveListener with stateless := false }] := ⟨_, rfl, rfl⟩
  obtain ⟨c, hc, hbehaviors⟩ := hc
  have hstateful : ∃ b ∈ c.behaviors, b.isStateless = false :=
    ⟨_, hbehaviors ▸ List.mem_singleton_self _, rfl⟩
  have hid : (sampleSession 7).id ≠ (sampleSession 9).id := by decide +kernel
  have hne : ({} : Settings).listenerParam ≠ ({} : Settings).pageParam := by decide
  obtain ⟨path, query, hpath, hurl, hrefused⟩ :=
    hp.dispatch_elsewhere hid hne ⟨2, c, hc, hstateful⟩ hc 0
  have hshown : (sampleSession 7).path? 2 = some "form:save" := by decide +kernel
  rw [hshown, Option.some.injEq] at hpath
  subst hpath
  exact ⟨query, hurl, hrefused⟩

end Page

end PageListeners
