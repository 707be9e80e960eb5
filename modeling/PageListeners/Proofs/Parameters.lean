import PageListeners.Parameters
import PageListeners.Proofs.Query

/-!
# Parameters under change

What setting and removing one name does to the entries of the other names, and to the values of
each name; which value a scalar is read from; and how parameters that come one after the other are
read.
-/

namespace PageListeners.Parameters

variable {key k : String}

instance : Append Parameters :=
  ⟨fun ps qs => ⟨ps.entries ++ qs.entries⟩⟩

/-- Setting a name is not seen by a selection that leaves out all entries of that name. -/
theorem filter_setEntry {q : String × String → Bool} (hq : ∀ e, e.1 = key → q e = false)
    (value : String) (es : List (String × String)) :
    (setEntry key value es).filter q = es.filter q := by
  induction es with
  | nil => simp [setEntry, hq]
  | cons e es ih =>
      by_cases he : e.1 = key
      · have hsub : ∀ x ∈ es, (q x && decide (x.1 ≠ key)) = q x := by
          intro x _
          by_cases hx : x.1 = key
          · simp [hq x hx]
          · simp [hx]
        rw [setEntry, if_pos he, List.filter_cons_of_neg (by simp [hq]), List.filter_filter,
          List.filter_congr hsub, List.filter_cons_of_neg (by simp [hq e he])]
      · rw [setEntry, if_neg he, List.filter_cons, List.filter_cons, ih]

/-- Neither is removing a name. -/
theorem filter_remove {q : String × String → Bool} (hq : ∀ e, e.1 = key → q e = false)
    (ps : Parameters) : (ps.remove key).entries.filter q = ps.entries.filter q := by
  rw [remove, List.filter_filter]
  apply List.filter_congr
  intro e _
  by_cases he : e.1 = key
  · simp [hq e he]
  · simp [he]

theorem eq_false_of_ne (h : k ≠ key) (e : String × String) (he : e.1 = key) :
    (e.1 == k) = false := by
  simp [he, h.symm]

theorem get?_eq_head? (ps : Parameters) (key : String) :
    ps.get? key = ((ps.entries.filter (·.1 == key)).head?).map (·.2) := by
  rw [get?, List.head?_filter]

theorem get?_set_self (ps : Parameters) (key value : String) :
    (ps.set key value).get? key = some value := by
  obtain ⟨es⟩ := ps
  simp only [get?, set]
  induction es with
  | nil => simp [setEntry]
  | cons e es ih =>
      by_cases he : e.1 = key
      · simp [setEntry, he]
      · rw [setEntry, if_neg he, List.find?_cons_of_neg (by simpa using he)]
        exact ih

theorem get?_set_of_ne (h : k ≠ key) (ps : Parameters) (value : String) :
    (ps.set key value).get? k = ps.get? k := by
  rw [get?_eq_head?, get?_eq_head?, set, filter_setEntry (eq_false_of_ne h)]

theorem getAll_set_of_ne (h : k ≠ key) (ps : Parameters) (value : String) :
    (ps.set key value).getAll k = ps.getAll k := by
  rw [getAll, getAll, set, filter_setEntry (eq_false_of_ne h)]

theorem get?_remove_self (ps : Parameters) (key : String) : (ps.remove key).get? key = none := by
  rw [get?_eq_head?, remove, List.filter_filter]
  simp

theorem get?_remove_of_ne (h : k ≠ key) (ps : Parameters) :
    (ps.remove key).get? k = ps.get? k := by
  rw [get?_eq_head?, get?_eq_head?, filter_remove (eq_false_of_ne h)]

theorem getAll_remove_of_ne (h : k ≠ key) (ps : Parameters) :
    (ps.remove key).getAll k = ps.getAll k := by
  rw [getAll, getAll, filter_remove (eq_false_of_ne h)]

theorem remove_set_self (ps : Parameters) (key value : String) :
    (ps.set key value).remove key = ps.remove key := by
  rw [remove, set, filter_setEntry (by simp), remove]

/-- The entry that is set stands where the first one of its name stood, or else at the end, and it
is the only one of its name. -/
theorem exists_setEntry (key value : String) (es : List (String × String)) :
    ∃ front back, setEntry key value es = front ++ (key, value) :: back ∧
      (∀ e ∈ front ++ back, e.1 ≠ key) ∧
      ((∃ old rest, es = front ++ (key, old) :: rest) ∨ es = front ∧ back = []) := by
  induction es with
  | nil => exact ⟨[], [], rfl, List.forall_mem_nil _, Or.inr ⟨rfl, rfl⟩⟩
  | cons e es ih =>
      by_cases he : e.1 = key
      · refine ⟨[], es.filter (·.1 ≠ key), by rw [setEntry, if_pos he]; rfl, ?_, ?_⟩
        · intro x hx
          exact of_decide_eq_true (List.mem_filter.1 hx).2
        · exact Or.inl ⟨e.2, es, by rw [← he]; rfl⟩
      · obtain ⟨front, back, hset, hne, hold⟩ := ih
        refine ⟨e :: front, back, by rw [setEntry, if_neg he, hset]; rfl, ?_, ?_⟩
        · exact List.forall_mem_cons.2 ⟨he, hne⟩
        · rcases hold with ⟨old, rest, rfl⟩ | ⟨rfl, hback⟩
          · exact Or.inl ⟨old, rest, rfl⟩
          · exact Or.inr ⟨rfl, hback⟩

/-- What stays of the entries from a running index on: all up to the first place, and behind it the
ones of other names. -/
def retained (key : String) (first : Nat) : Nat → List (String × String) → List (String × String)
  | _, [] => []
  | index, e :: es =>
    if index ≤ first ∨ e.1 ≠ key then e :: retained key first (index + 1) es
    else retained key first (index + 1) es

def setByIndex (key value : String) (es : List (String × String)) : List (String × String) :=
  match es.findIdx? (·.1 == key) with
  | some first => retained key first 0 (es.modify first fun e => (e.1, value))
  | none => es ++ [(key, value)]

theorem retained_of_lt {first index : Nat} (h : first < index) (es : List (String × String)) :
    retained key first index es = es.filter (·.1 ≠ key) := by
  induction es generalizing index with
  | nil => rfl
  | cons e es ih =>
      have hpast : ¬ index ≤ first := Nat.not_le_of_lt h
      rw [retained, ih (Nat.lt_succ_of_lt h), List.filter_cons]
      simp only [hpast, false_or, decide_eq_true_eq]

theorem retained_succ (key : String) (first index : Nat) (es : List (String × String)) :
    retained key (first + 1) (index + 1) es = retained key first index es := by
  induction es generalizing index with
  | nil => rfl
  | cons e es ih => simp only [retained, ih, Nat.add_le_add_iff_right]

/-- The search for the first place of a name and the pass behind it, in one. -/
theorem setEntry_eq_setByIndex (key value : String) (es : List (String × String)) :
    setEntry key value es = setByIndex key value es := by
  induction es with
  | nil => rfl
  | cons e es ih =>
      rw [setEntry, ih, setByIndex, setByIndex, List.findIdx?_cons]
      by_cases he : e.1 = key
      · simp only [he, if_true, beq_self_eq_true, List.modify_zero_cons, retained, Nat.le_refl,
          true_or, retained_of_lt (Nat.zero_lt_succ 0)]
      · rw [if_neg he, if_neg (by simpa using he)]
        cases hfirst : es.findIdx? (·.1 == key) with
        | none => rfl
        | some first =>
            -- the place and the running index are both one further on
            simp only [Option.map_some, List.modify_succ_cons, retained, Nat.zero_le, true_or,
              if_true, retained_succ]

theorem contains_iff {ps : Parameters} :
    ps.contains key = true ↔ ∃ value, (key, value) ∈ ps.entries := by
  simp [contains]

/-- Removing a name that is there takes something away. -/
theorem contains_iff_size_ne {ps : Parameters} :
    ps.contains key = true ↔ (ps.remove key).size ≠ ps.size := by
  have hkept : (ps.remove key).size = ps.size ↔ ∀ e ∈ ps.entries, e.1 ≠ key := by
    simp [size, remove, List.length_filter_eq_length_iff]
  rw [ne_eq, hkept, contains, List.any_eq_true]
  simp

theorem withdraw_eq (ps : Parameters) (key : String) :
    ps.withdraw key = (ps.contains key, ps.remove key) := by
  have hremoved : (ps.size != (ps.remove key).size) = ps.contains key := by
    rw [Bool.eq_iff_iff, bne_iff_ne, ne_comm, contains_iff_size_ne]
  rw [withdraw, hremoved]

/-- Setting a name leaves one entry for it, where the first one stood or else at the end, and
removing a name leaves none and tells whether there was one. Nothing else changes. -/
theorem set_and_remove (ps : Parameters) (key value : String) :
    (∃ front back, (ps.set key value).entries = front ++ (key, value) :: back ∧
      (∀ e ∈ front ++ back, e.1 ≠ key) ∧
      ((∃ old rest, ps.entries = front ++ (key, old) :: rest) ∨
        ps.entries = front ∧ back = [])) ∧
    (ps.set key value).entries = setByIndex key value ps.entries ∧
    (ps.set key value).entries.filter (·.1 ≠ key) = ps.entries.filter (·.1 ≠ key) ∧
    ps.withdraw key = (ps.contains key, ps.remove key) ∧
    (ps.remove key).entries = ps.entries.filter (·.1 ≠ key) ∧
    (ps.contains key = true ↔ ∃ v, (key, v) ∈ ps.entries) ∧
    (ps.contains key = true ↔ (ps.remove key).size ≠ ps.size) ∧
    ∀ k, k ≠ key →
      ((ps.set key value).get? k = ps.get? k ∧ (ps.set key value).getAll k = ps.getAll k) ∧
      (ps.remove key).get? k = ps.get? k ∧ (ps.remove key).getAll k = ps.getAll k := by
  refine ⟨exists_setEntry key value ps.entries, setEntry_eq_setByIndex key value ps.entries,
    filter_setEntry (by simp) value ps.entries, withdraw_eq ps key, rfl, contains_iff,
    contains_iff_size_ne, fun k h => ⟨⟨?_, ?_⟩, ?_, ?_⟩⟩
  · exact get?_set_of_ne h ps value
  · exact getAll_set_of_ne h ps value
  · exact get?_remove_of_ne h ps
  · exact getAll_remove_of_ne h ps

/-- A name that stands twice, around another one. -/
theorem repeated_set_and_remove :
    let ps : Parameters := ⟨[("a", "1"), ("b", "2"), ("a", "3")]⟩
    "b" ≠ "a" ∧ (ps.set "a" "9").entries = [("a", "9"), ("b", "2")] ∧
      (ps.set "a" "9").getAll "b" = ps.getAll "b" ∧
      (ps.remove "a").getAll "b" = ps.getAll "b" := by
  intro ps
  have hb : "b" ≠ "a" := by decide
  obtain ⟨⟨-, hset⟩, -, hremove⟩ := (set_and_remove ps "a" "9").2.2.2.2.2.2.2 "b" hb
  exact ⟨hb, by decide, hset, hremove⟩

def firstFilled? (ps : Parameters) (key : String) : Option String :=
  (ps.getAll key).find? (· ≠ "")

theorem head?_getAll (ps : Parameters) (key : String) : (ps.getAll key).head? = ps.get? key := by
  rw [getAll, List.head?_map, get?_eq_head?]

/-- The value that a scalar is read from is the first one that is not empty, unless an empty one
stands in front of it. -/
theorem filter_get? (ps : Parameters) (key : String) :
    (ps.get? key).filter (· ≠ "") =
      if (ps.getAll key).head? = some "" then none else ps.firstFilled? key := by
  rw [← head?_getAll, firstFilled?]
  cases ps.getAll key with
  | nil => rfl
  | cons v vs =>
      by_cases hv : v = ""
      · simp [hv]
      · simp [hv]

/-- A scalar is read from the first value of its name if that one is not empty, and else there is
none. So the values behind an empty one are not looked at, and this is all that sets the result apart
from reading the first value that is not empty. -/
theorem getAs?_reads_first {α : Type} (ps : Parameters) (key : String) (read : String → Option α) :
    ps.getAs? key read =
      (if (ps.getAll key).head? = some "" then none else (ps.firstFilled? key).bind read) ∧
    (ps.getAs? key read ≠ (ps.firstFilled? key).bind read ↔
      (ps.getAll key).head? = some "" ∧ ∃ v a, ps.firstFilled? key = some v ∧ read v = some a) := by
  have hread : ps.getAs? key read =
      if (ps.getAll key).head? = some "" then none else (ps.firstFilled? key).bind read := by
    rw [getAs?, filter_get?]
    split
    · rfl
    · rfl
  refine ⟨hread, ?_⟩
  rw [hread]
  by_cases hblank : (ps.getAll key).head? = some ""
  · rw [if_pos hblank, ne_comm, Option.ne_none_iff_exists']
    simp [hblank, Option.bind_eq_some_iff, exists_comm]
  · simp [hblank]

/-- A number behind an empty value of the same name. -/
theorem blank_hides_number :
    let ps : Parameters := ⟨[("n", ""), ("n", "5")]⟩
    ps.firstFilled? "n" = some "5" ∧ (ps.firstFilled? "n").bind (Text.unsigned? 32) = some 5 ∧
      ps.getAs? "n" (Text.unsigned? 32) = none := by
  decide +kernel

theorem remove_remove_self (ps : Parameters) (key : String) :
    (ps.remove key).remove key = ps.remove key := by
  simp [remove]

theorem remove_comm (ps : Parameters) (key k : String) :
    (ps.remove key).remove k = (ps.remove k).remove key := by
  simp only [remove, List.filter_filter]
  congr 2
  funext e
  exact Bool.and_comm ..

theorem remove_eq_self {ps : Parameters} (h : ∀ e ∈ ps.entries, e.1 ≠ key) :
    ps.remove key = ps := by
  rw [remove, List.filter_eq_self.2 fun e he => decide_eq_true (h e he)]

theorem get?_eq_none {ps : Parameters} (h : ∀ e ∈ ps.entries, e.1 ≠ key) : ps.get? key = none := by
  rw [← remove_eq_self h, get?_remove_self]

theorem get?_append (ps qs : Parameters) (key : String) :
    (ps ++ qs).get? key = (ps.get? key).or (qs.get? key) := by
  rw [get?, get?, get?, ← Option.map_or, ← List.find?_append]
  rfl

theorem remove_append (ps qs : Parameters) (key : String) :
    (ps ++ qs).remove key = ps.remove key ++ qs.remove key :=
  congrArg mk (List.filter_append ..)

theorem ofQuery_append (s t : String) : ofQuery (s ++ "&" ++ t) = ofQuery s ++ ofQuery t :=
  congrArg mk (Query.decode_append s t)

theorem ofQuery_toQuery (ps : Parameters) : ofQuery ps.toQuery = ps := by
  rw [ofQuery, toQuery, Query.decode_encode]

theorem eq_of_toQuery_eq {ps qs : Parameters} (he : ps.toQuery = qs.toQuery) : ps = qs := by
  rw [← ofQuery_toQuery ps, he, ofQuery_toQuery]

/-- The query text of parameters has every entry in its place, and it consists of characters that
may stand in a URL. -/
theorem toQuery_faithful (ps : Parameters) :
    ofQuery ps.toQuery = ps ∧ Query.IsWritten ps.toQuery.toList :=
  ⟨ofQuery_toQuery ps, Query.isWritten_encode ps.entries⟩

end PageListeners.Parameters
