import PageListeners.Callback
import PageListeners.Proofs.Address
import PageListeners.Proofs.Parameters

/-!
# What a callback URL carries

The two reserved names are read back as they were written, and the other parameters are those of the
page, whatever entries of its own the page has under the reserved names.
-/

namespace PageListeners

namespace Settings

variable (s : Settings) (ps : Parameters)

theorem unreserved_eq_filter :
    s.unreserved ps = ⟨ps.entries.filter fun e => e.1 ≠ s.listenerParam ∧ e.1 ≠ s.pageParam⟩ := by
  rw [unreserved, Parameters.remove, Parameters.remove, List.filter_filter]
  congr 2
  funext e
  simp [Bool.and_comm]

theorem unreserved_set_listenerParam (value : String) :
    s.unreserved (ps.set s.listenerParam value) = s.unreserved ps := by
  rw [unreserved, Parameters.remove_set_self, unreserved]

theorem unreserved_set_pageParam (value : String) :
    s.unreserved (ps.set s.pageParam value) = s.unreserved ps := by
  rw [unreserved, Parameters.remove_comm, Parameters.remove_set_self, Parameters.remove_comm,
    unreserved]

theorem unreserved_unreserved : s.unreserved (s.unreserved ps) = s.unreserved ps := by
  rw [unreserved, unreserved, Parameters.remove_comm (ps.remove s.listenerParam),
    Parameters.remove_remove_self, Parameters.remove_remove_self]

theorem unreserved_append (qs : Parameters) :
    s.unreserved (ps ++ qs) = s.unreserved ps ++ s.unreserved qs := by
  rw [unreserved, Parameters.remove_append, Parameters.remove_append, unreserved, unreserved]

theorem get?_pageParam_unreserved : (s.unreserved ps).get? s.pageParam = none :=
  Parameters.get?_remove_self ..

end Settings

namespace Page

variable (p : Page) {settings : Settings} (a : Address)

theorem unreserved_callbackParameters :
    settings.unreserved (p.callbackParameters settings a) = settings.unreserved p.parameters := by
  have haddressed :
      settings.unreserved ((settings.unreserved p.parameters).set settings.listenerParam a.text) =
        settings.unreserved p.parameters := by
    rw [settings.unreserved_set_listenerParam, settings.unreserved_unreserved]
  unfold callbackParameters
  by_cases hs : p.isStateless
  · rw [if_pos hs, haddressed]
  · rw [if_neg hs, settings.unreserved_set_pageParam, haddressed]

theorem get?_listenerParam_callbackParameters
    (hne : settings.listenerParam ≠ settings.pageParam) :
    (p.callbackParameters settings a).get? settings.listenerParam = some a.text := by
  unfold callbackParameters
  by_cases hs : p.isStateless
  · rw [if_pos hs, Parameters.get?_set_self]
  · rw [if_neg hs, Parameters.get?_set_of_ne hne, Parameters.get?_set_self]

theorem get?_pageParam_callbackParameters (hne : settings.listenerParam ≠ settings.pageParam) :
    (p.callbackParameters settings a).get? settings.pageParam =
      if p.isStateless then none else some (toString p.id) := by
  unfold callbackParameters
  by_cases hs : p.isStateless
  · rw [if_pos hs, if_pos hs, Parameters.get?_set_of_ne hne.symm,
      settings.get?_pageParam_unreserved]
  · rw [if_neg hs, if_neg hs, Parameters.get?_set_self]

/-- The parameters of callback URLs for two addresses differ. -/
theorem eq_of_callbackParameters_eq (hne : settings.listenerParam ≠ settings.pageParam)
    {b : Address} (he : p.callbackParameters settings a = p.callbackParameters settings b) :
    a = b := by
  have htext := congrArg (·.get? settings.listenerParam) he
  simp only [p.get?_listenerParam_callbackParameters _ hne, Option.some.injEq] at htext
  exact Address.eq_of_text_eq htext

theorem callbackUrl_of_path? {p : Page} {h : Handle} {path : String} (hpath : p.path? h = some path)
    (settings : Settings) (index : Nat) :
    p.callbackUrl settings h index = .ok (settings.callbackPath ++ "?" ++
      (p.callbackParameters settings ⟨path, index⟩).toQuery) := by
  rw [callbackUrl, callbackQuery, hpath]
  rfl

end Page

end PageListeners
