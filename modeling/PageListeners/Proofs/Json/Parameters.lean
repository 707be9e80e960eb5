import PageListeners.Draft
import PageListeners.Proofs.Json.RoundTrip

/-!
# Parameters in JSON

Parameters are written as an array of pairs, under a name of their own in a text of parameters and
under another one in a reply. The reader of parameters takes the pairs entry by entry, and it does
not mind what else an object holds.
-/

namespace PageListeners

open Json

namespace Json.Value.IsRegular

theorem texts (ss : List String) : (Value.texts ss).IsRegular := by
  apply array
  intro v hv
  obtain ⟨s, -, rfl⟩ := List.mem_map.1 hv
  exact .text s

theorem pairs (es : List (String × String)) : (Value.pairs es).IsRegular := by
  apply array
  intro v hv
  obtain ⟨e, -, rfl⟩ := List.mem_map.1 hv
  apply array
  simp only [List.forall_mem_cons]
  exact ⟨.text e.1, .text e.2, List.forall_mem_nil _⟩

end Json.Value.IsRegular

namespace Parameters

variable {v : Value} {before after : List (Option String × Value)}

theorem entriesOfJson?_pairs (es : List (String × String)) :
    entriesOfJson? (.pairs es) = some es := by
  rw [Value.pairs, entriesOfJson?]
  induction es with
  | nil => rfl
  | cons e es ih =>
      rw [List.map_cons, List.mapM_cons, ih]
      rfl

/-- Members of other names do not matter. -/
theorem ofJson?_object
    (hothers : ∀ m ∈ before ++ after, m.1.isSome = true ∧ m.1 ≠ some "entries") :
    ofJson? (.object (before ++ (some "entries", v) :: after)) = (entriesOfJson? v).map .mk := by
  obtain ⟨hbefore, hafter⟩ := List.forall_mem_append.1 hothers
  have hnone : ∀ {ms : List (Option String × Value)},
      (∀ m ∈ ms, m.1.isSome = true ∧ m.1 ≠ some "entries") →
        ms.filter (·.1 == some "entries") = [] := by
    intro ms hms
    rw [List.filter_eq_nil_iff]
    intro m hm
    simpa using (hms m hm).2
  have hentries : (before ++ (some "entries", v) :: after).filter (·.1 == some "entries") =
      [(some "entries", v)] := by
    rw [List.filter_append, hnone hbefore, List.nil_append, List.filter_cons, hnone hafter]
    rfl
  have hnames : (before ++ (some "entries", v) :: after).all (·.1.isSome) = true := by
    rw [List.all_eq_true]
    exact List.forall_mem_append.2 ⟨fun m hm => (hbefore m hm).1,
      List.forall_mem_cons.2 ⟨rfl, fun m hm => (hafter m hm).1⟩⟩
  simp only [ofJson?, hnames, hentries, if_true]

theorem ofJson?_toJson (ps : Parameters) : ofJson? ps.toJson = some ps := by
  have hread := @ofJson?_object (.pairs ps.entries) [] [] (List.forall_mem_nil _)
  rwa [entriesOfJson?_pairs] at hread

theorem isRegular_toJson (ps : Parameters) : ps.toJson.IsRegular := by
  apply Value.IsRegular.record
  simp only [List.forall_mem_cons]
  exact ⟨.pairs ps.entries, List.forall_mem_nil _⟩

theorem compact_toJson (ps : Parameters) :
    ps.toJson.compact = "\x7b\"entries\":" ++ (Value.pairs ps.entries).compact ++ "\x7d" := by
  rw [toJson, ← String.toList_inj, Value.compact, String.toList_ofList, chars_record]
  simp [memberText, Value.compact, quoteChars, escapeChar]

end Parameters

namespace Reply

theorem isRegular_payload (r : Reply) : r.payload.IsRegular := by
  apply Value.IsRegular.record
  simp only [List.forall_mem_cons]
  exact ⟨.texts r.markupIds, .texts r.scripts, .pairs r.parameters.entries,
    List.forall_mem_nil _⟩

/-- The parameters are the last member of a reply. -/
theorem exists_json_eq (r : Reply) : ∃ front, r.json =
    front ++ ",\"parameters\":" ++ (Value.pairs r.parameters.entries).compact ++ "\x7d" := by
  refine ⟨String.ofList ('\x7b' :: (memberText ("components", .texts r.markupIds) ++
    ',' :: memberText ("scripts", .texts r.scripts))), ?_⟩
  rw [json, payload, ← String.toList_inj, Value.compact, String.toList_ofList, chars_record,
    intercalate_map_cons, intercalate_map_cons, List.map_cons, List.map_nil,
    List.intercalate_singleton]
  simp [memberText, Value.compact, quoteChars, escapeChar]

end Reply

/-- Parameters come back from their own text. The array that a reply writes for them is read back
as well, as the entries of any object that has it under that name and no second one. -/
theorem Parameters.ofJson?_faithful (ps : Parameters) (r : Reply) :
    (read? ps.toJson.compact).bind ofJson? = some ps ∧
    ∃ front array, r.json = front ++ ",\"parameters\":" ++ array ++ "\x7d" ∧
      read? array = some (.pairs r.parameters.entries) ∧
      read? r.json = some (.record [("components", .texts r.markupIds),
        ("scripts", .texts r.scripts), ("parameters", .pairs r.parameters.entries)]) ∧
      (read? ("\x7b\"entries\":" ++ array ++ "\x7d")).bind ofJson? = some r.parameters ∧
      ∀ text before after,
        read? text =
          some (.object (before ++ (some "entries", .pairs r.parameters.entries) :: after)) →
        (∀ m ∈ before ++ after, m.1.isSome = true ∧ m.1 ≠ some "entries") →
        (read? text).bind ofJson? = some r.parameters := by
  have htext : ∀ qs : Parameters, (read? qs.toJson.compact).bind ofJson? = some qs := by
    intro qs
    rw [qs.isRegular_toJson.read?_compact, Option.bind_some, ofJson?_toJson]
  obtain ⟨front, hjson⟩ := r.exists_json_eq
  refine ⟨htext ps, front, _, hjson, (Value.IsRegular.pairs _).read?_compact,
    r.isRegular_payload.read?_compact, ?_, ?_⟩
  · rw [← compact_toJson]
    exact htext r.parameters
  · intro text before after hread hothers
    rw [hread, Option.bind_some, ofJson?_object hothers, entriesOfJson?_pairs]
    rfl

/-- The entries of a reply between other members, and a name that stands twice. -/
theorem sample_ofJson?_faithful :
    let r : Reply := { parameters := ⟨[("q", "\n"), ("q", "")]⟩ }
    let text := "\x7b\"id\":1,\"entries\":[[\"q\",\"\\n\"],[\"q\",\"\"]],\"id\":true\x7d"
    read? text = some (.object [(some "id", .number "1"),
      (some "entries", .pairs r.parameters.entries), (some "id", .bool true)]) ∧
    (read? text).bind Parameters.ofJson? = some r.parameters := by
  intro r text
  let ms : List (String × Value) :=
    [("id", .nat 1), ("entries", .pairs r.parameters.entries), ("id", .bool true)]
  have hregular : (Value.record ms).IsRegular := by
    apply Value.IsRegular.record
    simp only [ms, List.forall_mem_cons]
    exact ⟨.nat 1, .pairs _, .bool true, List.forall_mem_nil _⟩
  have htext : text = (Value.record ms).compact := by
    decide +kernel
  have hread : read? text = some (.object ([(some "id", .number "1")] ++
      (some "entries", .pairs r.parameters.entries) :: [(some "id", .bool true)])) :=
    htext ▸ hregular.read?_compact
  obtain ⟨front, array, -, -, -, -, hany⟩ := (Parameters.ofJson?_faithful {} r).2
  exact ⟨hread, hany text _ _ hread (by decide)⟩

end PageListeners
