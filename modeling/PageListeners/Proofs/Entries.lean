import Mathlib.Data.List.Nodup
import PageListeners.Entries

/-!
# Lists with one entry for each key

Where no key stands twice, what is found under a key is what stands there. Taking keys out and
putting entries in front for them keeps it so.
-/

namespace PageListeners

variable {α β : Type} {es : List (α × β)}

theorem lookup_eq_some_iff_mem [BEq α] [LawfulBEq α] {xs : List (α × β)}
    (hxs : ∀ a b b', (a, b) ∈ xs → (a, b') ∈ xs → b = b') {a : α} {b : β} :
    xs.lookup a = some b ↔ (a, b) ∈ xs := by
  constructor
  · intro hb
    obtain ⟨front, back, rfl, -⟩ := List.lookup_eq_some_iff.1 hb
    simp
  · intro hb
    have hsome : (xs.lookup a).isSome := by
      rw [List.lookup_isSome_iff]
      exact ⟨(a, b), hb, beq_self_eq_true a⟩
    obtain ⟨b', hb'⟩ := Option.isSome_iff_exists.1 hsome
    obtain ⟨front, back, he, -⟩ := List.lookup_eq_some_iff.1 hb'
    rw [hb', hxs a b b' hb (by simp [he])]

theorem lookup_eq_some_iff_mem_of_nodup [DecidableEq α] (hes : (es.map (·.1)).Nodup) {a : α}
    {b : β} : es.lookup a = some b ↔ (a, b) ∈ es := by
  apply lookup_eq_some_iff_mem
  intro a b b' hb hb'
  exact (Prod.mk.inj (List.inj_on_of_nodup_map hes hb hb' rfl)).2

theorem nodup_keys_filter (hes : (es.map (·.1)).Nodup) (q : α × β → Bool) :
    ((es.filter q).map (·.1)).Nodup :=
  hes.sublist (List.filter_sublist.map _)

/-- An entry in front, for a key that is taken out of the rest, keeps the keys different. -/
theorem nodup_keys_cons_filter [DecidableEq α] (hes : (es.map (·.1)).Nodup) (key : α) {b : β} :
    (((key, b) :: es.filter (·.1 ≠ key)).map (·.1)).Nodup := by
  rw [List.map_cons, List.nodup_cons]
  constructor
  · intro hmem
    obtain ⟨e, he, hsame⟩ := List.mem_map.1 hmem
    have hne := List.of_mem_filter he
    rw [decide_eq_true_iff] at hne
    exact hne hsame
  · exact nodup_keys_filter hes _

end PageListeners
