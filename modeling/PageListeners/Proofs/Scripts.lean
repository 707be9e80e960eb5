import PageListeners.Delegation
import PageListeners.Proofs.Json.Quoted

/-!
# The texts of scripts

A consolidated script tells the markup id of its container and its event, and it is never the script
of a single listener.
-/

namespace PageListeners

variable {settings : Settings} {d e : Delegator} {m n script payload : String}
  {xs ys : List Contribution}

theorem Delegator.isSome_script?_iff : (d.script? settings m xs).isSome = true ↔ xs ≠ [] := by
  unfold script?
  split
  · next hxs => simp [hxs]
  · next hxs => simp [hxs]

/-- The namespace of the client, the name of the call and the quoted container in front. -/
theorem Delegator.exists_of_script? (hs : d.script? settings m xs = some script) :
    ∃ rest, script.toList = settings.clientNamespace.toList ++ ".Event.delegate(".toList ++
      (Json.quoteChars m.toList ++ (", ".toList ++ (Json.quoteChars d.event.toList ++ rest))) := by
  unfold script? at hs
  split at hs
  · cases hs
  · cases hs
    refine ⟨", \x7b".toList ++ (String.intercalate "," (xs.map Contribution.member)).toList ++
      "\x7d);".toList, ?_⟩
    simp [arguments, Json.quote]

theorem Delegator.script?_inj (hd : d.script? settings m xs = some script)
    (he : e.script? settings n ys = some script) : m = n ∧ d.event = e.event := by
  obtain ⟨rest, hrest⟩ := exists_of_script? hd
  obtain ⟨tail, htail⟩ := exists_of_script? he
  have hquoted := List.append_cancel_left (hrest.symm.trans htail)
  obtain ⟨hm, hrest⟩ := Json.quoteChars_append_inj hquoted
  obtain ⟨hevent, -⟩ := Json.quoteChars_append_inj (List.append_cancel_left hrest)
  exact ⟨String.toList_inj.1 hm, String.toList_inj.1 hevent⟩

theorem Delegator.script?_ne_listener (hd : d.script? settings m xs = some script) :
    script ≠ Listener.script settings payload := by
  rintro rfl
  obtain ⟨rest, hrest⟩ := exists_of_script? hd
  have hcall : (Listener.script settings payload).toList =
      settings.clientNamespace.toList ++ (".Ajax.ajax(".toList ++ (payload ++ ");").toList) := by
    simp [Listener.script]
  rw [hcall, List.append_assoc] at hrest
  have hname := List.append_cancel_left hrest
  simp at hname

theorem Listener.payload_eq_of_script_eq {payload' : String}
    (he : Listener.script settings payload = Listener.script settings payload') :
    payload = payload' := by
  simpa [Listener.script] using he

end PageListeners
