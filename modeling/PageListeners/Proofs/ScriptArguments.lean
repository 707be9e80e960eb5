import PageListeners.Delegation
import PageListeners.Proofs.RequestAttributes

/-!
# The arguments of a consolidated script

The arguments of the client's call are put together from texts that were quoted one by one. As the
items of one array they are read back one by one: no markup id and no payload reaches into what
stands beside it.
-/

namespace PageListeners

open Json

variable {settings : Settings} {d : Delegator} {markupId : String} {cs : List Contribution}
  {ms : List (String × Value)}

/-- Items between brackets are read as an array, with a blank behind each comma. -/
theorem Json.read?_bracketed {items : String} {vs : List Value} (hne : vs ≠ [])
    (hvs : ∀ v ∈ vs, v.IsRegular)
    (hitems : items.toList = [',', ' '].intercalate (vs.map Value.chars)) :
    read? ("[" ++ items ++ "]") = some (.array vs) := by
  have htext : ("[" ++ items ++ "]").toList = '[' :: (items.toList ++ [']']) := by simp
  have hblanks : ∀ c ∈ [' '], isBlank c = true := List.forall_mem_singleton.2 rfl
  rw [read?, htext, hitems]
  apply readChars?_eq_some
  apply value?_array
  apply items?_intercalate hblanks (fun v hv => (hvs v hv).readsBack) hne
  simp only [List.length_cons, List.length_append]
  omega

namespace Contribution

def ReadsAs (c : Contribution) (m : String × Value) : Prop :=
  m.1 = c.markupId ∧ read? c.payload = some m.2

theorem toList_member {c : Contribution} {a : RequestAttributes} (hc : c.payload = a.json) :
    c.member.toList = memberText (c.markupId, a.payload) := by
  rw [member, hc]
  simp [memberText, quote, RequestAttributes.json, Value.compact]

theorem exists_members (hcs : ∀ c ∈ cs, ∃ a : RequestAttributes, c.payload = a.json) :
    ∃ ms : List (String × Value), (∀ m ∈ ms, m.2.IsRegular) ∧
      cs.map (·.member.toList) = ms.map memberText ∧ List.Forall₂ ReadsAs cs ms := by
  induction cs with
  | nil => exact ⟨[], List.forall_mem_nil _, rfl, .nil⟩
  | cons c cs ih =>
      obtain ⟨a, ha⟩ := hcs c List.mem_cons_self
      obtain ⟨ms, hregular, htexts, hread⟩ := ih fun x hx => hcs x (List.mem_cons_of_mem c hx)
      refine ⟨(c.markupId, a.payload) :: ms, ?_, ?_, ?_⟩
      · exact List.forall_mem_cons.2 ⟨a.isRegular_payload, hregular⟩
      · rw [List.map_cons, List.map_cons, toList_member ha, htexts]
      · exact .cons ⟨rfl, ha ▸ a.read?_json⟩ hread

end Contribution

namespace Delegator

theorem toList_arguments (hms : cs.map (·.member.toList) = ms.map memberText) :
    (d.arguments markupId cs).toList = [',', ' '].intercalate
      ([.text markupId, .text d.event, .record ms].map Value.chars) := by
  have hmembers : (String.intercalate "," (cs.map Contribution.member)).toList =
      [','].intercalate (ms.map memberText) := by
    rw [String.toList_intercalate, List.map_map, ← hms]
    rfl
  rw [intercalate_map_cons, intercalate_map_cons, List.map_cons, List.map_nil,
    List.intercalate_singleton, chars_record]
  simp [arguments, hmembers, quote, Value.text, Value.chars, stringChars]

/-- What stands between the brackets of the call is read as the container's markup id, the event and
an object with one member for each contribution, in their order. -/
theorem script?_reads (d : Delegator) (settings : Settings) (markupId : String) (hne : cs ≠ [])
    (hcs : ∀ c ∈ cs, ∃ a : RequestAttributes, c.payload = a.json) :
    ∃ arguments ms,
      d.script? settings markupId cs =
        some (settings.clientNamespace ++ ".Event.delegate(" ++ arguments ++ ");") ∧
      read? ("[" ++ arguments ++ "]") =
        some (.array [.text markupId, .text d.event, .record ms]) ∧
      List.Forall₂ Contribution.ReadsAs cs ms := by
  obtain ⟨ms, hregular, htexts, hread⟩ := Contribution.exists_members hcs
  refine ⟨d.arguments markupId cs, ms, if_neg hne, ?_, hread⟩
  apply read?_bracketed (List.cons_ne_nil _ _) _ (toList_arguments htexts)
  simp only [List.forall_mem_cons]
  exact ⟨.text markupId, .text d.event, .record hregular, List.forall_mem_nil _⟩

def markedContributions : List Contribution :=
  [⟨"a\":\x7b\x7d,\"b", RequestAttributes.json { url := "./?\"\x7d);", eventNames := ["click"] }⟩,
    ⟨"\\", RequestAttributes.json { timeout := some 0, extraParameters := [("\n", "]")] }⟩]

theorem marked_script?_reads : markedContributions ≠ [] ∧
    (∀ c ∈ markedContributions, ∃ a : RequestAttributes, c.payload = a.json) ∧
    ∃ arguments ms,
      Delegator.script? ⟨"click"⟩ {} "form\", \"" markedContributions =
        some ("Eventwire.Event.delegate(" ++ arguments ++ ");") ∧
      read? ("[" ++ arguments ++ "]") =
        some (.array [.text "form\", \"", .text "click", .record ms]) ∧
      ms.map (·.1) = ["a\":\x7b\x7d,\"b", "\\"] := by
  have hne : markedContributions ≠ [] := List.cons_ne_nil _ _
  have hcs : ∀ c ∈ markedContributions, ∃ a : RequestAttributes, c.payload = a.json :=
    List.forall_mem_cons.2 ⟨⟨_, rfl⟩, List.forall_mem_cons.2 ⟨⟨_, rfl⟩, List.forall_mem_nil _⟩⟩
  obtain ⟨arguments, ms, hscript, hread, hms⟩ := script?_reads ⟨"click"⟩ {} "form\", \"" hne hcs
  refine ⟨hne, hcs, arguments, ms, hscript, hread, ?_⟩
  rcases hms with _ | ⟨⟨hfirst, -⟩, _ | ⟨⟨hsecond, -⟩, ⟨⟩⟩⟩
  rw [List.map_cons, List.map_cons, List.map_nil, hfirst, hsecond]

end Delegator

end PageListeners
