import PageListeners.Proofs.Dispatch

/-!
# Form fields around a callback query

A client sends the fields of a form before and behind the query of a callback URL. As long as the
fields in front do not use the reserved names, and those behind do not name a page, the request
leads to the listener of the URL, and its handler finds the fields around the page's parameters.
-/

namespace PageListeners

namespace Settings

variable {s : Settings} {ps : Parameters}

theorem unreserved_eq_self
    (h : ∀ e ∈ ps.entries, e.1 ≠ s.listenerParam ∧ e.1 ≠ s.pageParam) : s.unreserved ps = ps := by
  rw [unreserved, Parameters.remove_eq_self fun e he => (h e he).1,
    Parameters.remove_eq_self fun e he => (h e he).2]

/-- Of fields that name no page only the listener's name is taken out. -/
theorem unreserved_eq_remove (h : ∀ e ∈ ps.entries, e.1 ≠ s.pageParam) :
    s.unreserved ps = ps.remove s.listenerParam := by
  rw [unreserved, Parameters.remove_comm, Parameters.remove_eq_self h]

end Settings

namespace Page

variable {p : Page} {settings : Settings} {h : Handle} {c : Component} {l : Listener} {a : Address}
  {fields more : Parameters} {front back : String}

/-- The first address in the request is the one of the callback URL. -/
theorem authorize_among_fields (p : Page) (hne : settings.listenerParam ≠ settings.pageParam)
    (ha : a.index < 1 <<< 64)
    (hfields : ∀ e ∈ fields.entries, e.1 ≠ settings.listenerParam ∧ e.1 ≠ settings.pageParam)
    (hmore : ∀ e ∈ more.entries, e.1 ≠ settings.pageParam) :
    p.authorize settings (fields ++ p.callbackParameters settings a ++ more) =
      p.listenerAt a := by
  apply p.authorize_of_get? ha
  · rw [Parameters.get?_append, Parameters.get?_append,
      Parameters.get?_eq_none fun e he => (hfields e he).1,
      p.get?_listenerParam_callbackParameters a hne]
    rfl
  · rw [Parameters.get?_append, Parameters.get?_append,
      Parameters.get?_eq_none fun e he => (hfields e he).2, Parameters.get?_eq_none hmore,
      p.get?_pageParam_callbackParameters a hne, Option.none_or, Option.or_none]

theorem unreserved_among_fields (p : Page)
    (hfields : ∀ e ∈ fields.entries, e.1 ≠ settings.listenerParam ∧ e.1 ≠ settings.pageParam)
    (hmore : ∀ e ∈ more.entries, e.1 ≠ settings.pageParam) :
    settings.unreserved (fields ++ p.callbackParameters settings a ++ more) =
      fields ++ settings.unreserved p.parameters ++ more.remove settings.listenerParam := by
  rw [settings.unreserved_append, settings.unreserved_append,
    settings.unreserved_eq_self hfields, p.unreserved_callbackParameters,
    settings.unreserved_eq_remove hmore]

/-- A form cannot redirect the request of a callback URL. The handler that the URL was made for runs,
on the fields in front, then the page's parameters, then the fields behind, all without the reserved
names. -/
theorem Reachable.dispatch_among_fields (hp : p.Reachable)
    (hne : settings.listenerParam ≠ settings.pageParam) (index : UInt64)
    (hc : p.component? h = some c) (hl : c.behaviors[index.toNat]? = some (.listener l))
    (hvisible : p.isVisible h = true) (henabled : p.isEnabled h = true)
    (hfront : ∀ e ∈ Query.decode front, e.1 ≠ settings.listenerParam ∧ e.1 ≠ settings.pageParam)
    (hback : ∀ e ∈ Query.decode back, e.1 ≠ settings.pageParam) :
    ∃ query, p.callbackUrl settings h index.toNat = .ok (settings.callbackPath ++ "?" ++ query) ∧
      let draft := l.handler { parameters := ⟨Query.decode front ++
        (p.parameters.entries.filter fun e =>
          e.1 ≠ settings.listenerParam ∧ e.1 ≠ settings.pageParam) ++
        (Query.decode back).filter fun e => e.1 ≠ settings.listenerParam⟩ }
      (Edit.dispatch settings (front ++ "&" ++ query ++ "&" ++ back)).apply p =
        (.ok ⟨draft.marked.filterMap p.markupId?, draft.scripts, draft.parameters⟩,
          { p with parameters := draft.parameters }) := by
  have ht : p.IsTree := hp.isTree
  obtain ⟨path, hpath⟩ := ht.exists_path hc
  refine ⟨_, callbackUrl_of_path? hpath settings index.toNat, ?_⟩
  have hlistener : p.listenerAt ⟨path, index.toNat⟩ = .ok l :=
    listenerAt_eq_ok_iff.2 ⟨h, c, ht.find?_iff_path?.2 hpath, ⟨hvisible, henabled⟩, hc, hl⟩
  have hfields : ∀ e ∈ (Parameters.ofQuery front).entries,
      e.1 ≠ settings.listenerParam ∧ e.1 ≠ settings.pageParam := hfront
  have hmore : ∀ e ∈ (Parameters.ofQuery back).entries, e.1 ≠ settings.pageParam := hback
  rw [Edit.apply_dispatch, Parameters.ofQuery_append, Parameters.ofQuery_append,
    Parameters.ofQuery_toQuery, p.authorize_among_fields hne index.toNat_lt hfields hmore,
    hlistener, p.unreserved_among_fields hfields hmore, settings.unreserved_eq_filter]
  rfl

/-- An empty name, a broken escape and a second address do no harm. -/
theorem sample_dispatch_among_fields :
    ∃ query, sample.callbackUrl {} 2 0 = .ok ("./?" ++ query) ∧
      (Edit.dispatch {} ("name=Ada&&=&%zz" ++ "&" ++ query ++ "&" ++ "_listener=%3A1&q=2")).apply
          sample =
        (.ok ⟨["save_2"], [], ⟨[("name", "Ada"), ("", ""), ("%zz", ""), ("q", "1"), ("q", "2"),
            ("saved", "yes")]⟩⟩,
          { sample with parameters := ⟨[("name", "Ada"), ("", ""), ("%zz", ""), ("q", "1"),
            ("q", "2"), ("saved", "yes")]⟩ }) := by
  obtain ⟨c, hc, hbehaviors⟩ := sample_save
  have hl : c.behaviors[(0 : UInt64).toNat]? = some (.listener saveListener) := by
    rw [hbehaviors]
    rfl
  have hne : ({} : Settings).listenerParam ≠ ({} : Settings).pageParam := by decide
  have hfront : Query.decode "name=Ada&&=&%zz" = [("name", "Ada"), ("", ""), ("%zz", "")] := by
    decide +kernel
  have hback : Query.decode "_listener=%3A1&q=2" = [("_listener", ":1"), ("q", "2")] := by
    decide +kernel
  have hfields : ∀ e ∈ Query.decode "name=Ada&&=&%zz",
      e.1 ≠ ({} : Settings).listenerParam ∧ e.1 ≠ ({} : Settings).pageParam := by
    rw [hfront]
    decide
  have hmore : ∀ e ∈ Query.decode "_listener=%3A1&q=2", e.1 ≠ ({} : Settings).pageParam := by
    rw [hback]
    decide
  have hdispatch := sample_reachable.dispatch_among_fields hne 0 hc hl sample_open.1 sample_open.2
    hfields hmore
  rw [hfront, hback] at hdispatch
  exact hdispatch

end Page

end PageListeners
