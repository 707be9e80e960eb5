import PageListeners.Proofs.Page.Lineage

/-!
# Paths and components

In a tree a path leads to one component at most, which is the one that has this path. The way down
along a path undoes the way up step by step, since the ids of siblings differ; and no id is empty
or has a colon, so the text of a path gives its ids back.
-/

namespace PageListeners.Page

variable {p q : Page} {g h : Handle} {c d : Component}

theorem toList_joinPath (ids : List String) :
    (joinPath ids).toList = [':'].intercalate (ids.map String.toList) := by
  rw [joinPath, String.toList_intercalate]
  rfl

theorem joinPath_splitPath (path : String) : joinPath (splitPath path) = path := by
  have hback : String.toList ∘ String.ofList = fun cs => cs := funext fun _ => String.toList_ofList
  apply String.toList_injective
  rw [toList_joinPath, splitPath, List.map_map, hback, List.map_id', List.intercalate_splitOn]

theorem splitPath_joinPath {ids : List String} (hne : ids ≠ [])
    (hids : ∀ id ∈ ids, ':' ∉ id.toList) : splitPath (joinPath ids) = ids := by
  have hsplit : (joinPath ids).toList.splitOn ':' = ids.map String.toList := by
    rw [toList_joinPath]
    apply List.splitOn_intercalate
    · intro l hl
      obtain ⟨id, hid, rfl⟩ := List.mem_map.1 hl
      exact hids id hid
    · simpa using hne
  have hback : String.ofList ∘ String.toList = fun id => id := funext fun _ => String.ofList_toList
  rw [splitPath, hsplit, List.map_map, hback, List.map_id']

theorem splitPath_append (s t : String) :
    splitPath (s ++ ":" ++ t) = splitPath s ++ splitPath t := by
  have hlist : (s ++ ":" ++ t).toList = s.toList ++ ':' :: t.toList := by
    rw [String.toList_append, String.toList_append, List.append_assoc]
    rfl
  rw [splitPath, hlist, List.splitOn_append_cons_self, List.map_append]
  rfl

theorem joinPath_singleton (id : String) : joinPath [id] = id :=
  String.intercalate_singleton

theorem joinPath_cons (id : String) {ids : List String} (hids : ids ≠ []) :
    joinPath (id :: ids) = id ++ ":" ++ joinPath ids := by
  apply String.toList_injective
  rw [toList_joinPath, List.map_cons, List.intercalate_cons_of_ne_nil (by simpa using hids),
    ← toList_joinPath, String.toList_append, String.toList_append]
  rfl

theorem joinPath_append {xs ys : List String} (hxs : xs ≠ []) (hys : ys ≠ []) :
    joinPath (xs ++ ys) = joinPath xs ++ ":" ++ joinPath ys := by
  induction xs with
  | nil => exact absurd rfl hxs
  | cons x xs ih =>
      by_cases hnil : xs = []
      · rw [hnil, List.singleton_append, joinPath_cons x hys, joinPath_singleton]
      · have hne : xs ++ ys ≠ [] := List.append_ne_nil_of_left_ne_nil hnil ys
        rw [List.cons_append, joinPath_cons x hne, joinPath_cons x hnil, ih hnil]
        simp only [String.append_assoc]

theorem joinPath_ne_empty {id : String} (hid : id ≠ "") (ids : List String) :
    joinPath (id :: ids) ≠ "" := by
  by_cases hnil : ids = []
  · rw [hnil, joinPath_singleton]
    exact hid
  · rw [joinPath_cons id hnil]
    simp

def segments? (p : Page) (h : Handle) : Option (List String) :=
  (p.lineage? h).map fun line => (line.dropLast.map (·.2.id)).reverse

theorem path?_eq_segments? (p : Page) (h : Handle) :
    p.path? h = (p.segments? h).map joinPath := by
  rw [path?, segments?, Option.map_map]
  rfl

theorem descend?_append (p : Page) (h : Handle) (xs ys : List String) :
    p.descend? h (xs ++ ys) = (p.descend? h xs).bind (p.descend? · ys) := by
  induction xs generalizing h with
  | nil => rfl
  | cons x xs ih =>
      simp only [List.cons_append, descend?]
      cases p.component? h with
      | none => rfl
      | some c =>
          cases hx : p.childNamed? c x with
          | none => simp only [hx, Option.bind_none]
          | some child =>
              simp only [hx]
              exact ih child

theorem descend?_singleton (p : Page) (h : Handle) (id : String) :
    p.descend? h [id] = (p.component? h).bind (p.childNamed? · id) := by
  simp only [descend?]
  cases p.component? h with
  | none => rfl
  | some c => cases hx : p.childNamed? c id <;> simp [hx]

namespace IsTree

theorem childNamed?_eq_some_iff (ht : p.IsTree) (hd : p.component? g = some d) {id : String} :
    p.childNamed? d id = some h ↔ ∃ c, p.component? h = some c ∧ c.parent = some g ∧ c.id = id := by
  constructor
  · intro hf
    obtain ⟨c, hc, hparent⟩ := ht.parent_of_child hd h (List.mem_of_find?_eq_some hf)
    have hid := List.find?_some hf
    rw [hc, Option.any_some, beq_iff_eq] at hid
    exact ⟨c, hc, hparent, hid⟩
  · rintro ⟨c, hc, hparent, hid⟩
    have hmem : h ∈ d.children := (ht.mem_children_iff hd).2 (parent?_eq_some.2 ⟨c, hc, hparent⟩)
    have hsome : (p.childNamed? d id).isSome := by
      rw [childNamed?, List.find?_isSome]
      exact ⟨h, hmem, by simp [hc, hid]⟩
    obtain ⟨k, hk⟩ := Option.isSome_iff_exists.1 hsome
    obtain ⟨e, he, heparent⟩ := ht.parent_of_child hd k (List.mem_of_find?_eq_some hk)
    have heid := List.find?_some hk
    rw [he, Option.any_some, beq_iff_eq] at heid
    rw [hk, ht.siblings he hc (by rw [heparent, hparent]) (by rw [heid, hid])]

theorem segments?_root (ht : p.IsTree) : p.segments? root = some [] := by
  obtain ⟨c, hc, hn⟩ := ht.root_live
  rw [segments?, lineage?_of_parent_none hc hn]
  rfl

theorem segments?_child (ht : p.IsTree) (hc : p.component? h = some c) (hg : c.parent = some g) :
    p.segments? h = (p.segments? g).map (· ++ [c.id]) := by
  obtain ⟨d, hd⟩ := ht.parent_live (parent?_eq_some.2 ⟨c, hc, hg⟩)
  obtain ⟨line, hline⟩ := ht.exists_lineage hd
  rw [segments?, segments?, lineage?_of_parent_some hc hg (ht.parent_lt hc hg), hline]
  simp

/-- A live component has its ids, each of which fits into a path. -/
theorem exists_segments (ht : p.IsTree) (hc : p.component? h = some c) :
    ∃ ids, p.segments? h = some ids ∧ ∀ id ∈ ids, id ≠ "" ∧ ':' ∉ id.toList := by
  refine ht.induction (P := fun h _ => ∃ ids, p.segments? h = some ids ∧
    ∀ id ∈ ids, id ≠ "" ∧ ':' ∉ id.toList) ?_ ?_ h c hc
  · intro _ _ _
    exact ⟨[], ht.segments?_root, by simp⟩
  · intro h c g d hc hg _ hlt ih
    obtain ⟨ids, hids, hall⟩ := ih
    refine ⟨ids ++ [c.id], by rw [ht.segments?_child hc hg, hids, Option.map_some], ?_⟩
    obtain ⟨hne, hchars⟩ := ht.ids hc (Nat.ne_zero_of_lt hlt)
    intro id hid
    rcases List.mem_append.1 hid with hold | hnew
    · exact hall id hold
    · rw [List.mem_singleton.1 hnew]
      exact ⟨hne, fun hcolon => (hchars ':' hcolon).1 rfl⟩

theorem descend?_segments (ht : p.IsTree) (hc : p.component? h = some c) :
    ∀ ids, p.segments? h = some ids → p.descend? root ids = some h := by
  refine ht.induction
    (P := fun h _ => ∀ ids, p.segments? h = some ids → p.descend? root ids = some h) ?_ ?_ h c hc
  · intro _ _ _ ids hids
    rw [ht.segments?_root] at hids
    cases hids
    rfl
  · intro h c g d hc hg hd _ ih ids hids
    rw [ht.segments?_child hc hg] at hids
    obtain ⟨init, hinit, rfl⟩ := Option.map_eq_some_iff.1 hids
    rw [descend?_append, ih init hinit, Option.bind_some, descend?_singleton, hd, Option.bind_some]
    exact (ht.childNamed?_eq_some_iff hd).2 ⟨c, hc, hg, rfl⟩

theorem segments?_of_descend? (ht : p.IsTree) (hd : p.component? g = some d)
    {init ids : List String} (hinit : p.segments? g = some init)
    (hdesc : p.descend? g ids = some h) :
    p.segments? h = some (init ++ ids) ∧ ∃ c, p.component? h = some c := by
  induction ids generalizing g d init with
  | nil =>
      cases hdesc
      exact ⟨by rw [hinit, List.append_nil], d, hd⟩
  | cons id ids ih =>
      simp only [descend?, hd] at hdesc
      cases hk : p.childNamed? d id with
      | none => simp [hk] at hdesc
      | some k =>
          simp only [hk] at hdesc
          obtain ⟨e, he, hparent, hid⟩ := (ht.childNamed?_eq_some_iff hd).1 hk
          have hsegs : p.segments? k = some (init ++ [id]) := by
            rw [ht.segments?_child he hparent, hinit, Option.map_some, hid]
          simpa using ih he hsegs hdesc

theorem exists_path (ht : p.IsTree) (hc : p.component? h = some c) : ∃ s, p.path? h = some s := by
  obtain ⟨ids, hids, -⟩ := ht.exists_segments hc
  exact ⟨joinPath ids, by rw [path?_eq_segments?, hids, Option.map_some]⟩

theorem live_of_path? {s : String} (hs : p.path? h = some s) : ∃ c, p.component? h = some c := by
  cases hc : p.component? h with
  | none =>
      rw [path?, lineage?_of_dead hc] at hs
      cases hs
  | some c => exact ⟨c, rfl⟩

/-- A text finds a component exactly if it is the component's path. -/
theorem find?_iff_path? (ht : p.IsTree) {s : String} :
    p.find? s = some h ↔ p.path? h = some s := by
  obtain ⟨r, hr, -⟩ := ht.root_live
  constructor
  · intro hf
    unfold find? at hf
    split at hf
    · next hs =>
      cases hf
      rw [path?_eq_segments?, ht.segments?_root, hs]
      rfl
    · obtain ⟨hsegs, -⟩ := ht.segments?_of_descend? hr ht.segments?_root hf
      rw [path?_eq_segments?, hsegs, Option.map_some, List.nil_append, joinPath_splitPath]
  · intro hs
    obtain ⟨c, hc⟩ := live_of_path? hs
    obtain ⟨ids, hids, hall⟩ := ht.exists_segments hc
    have hdown := ht.descend?_segments hc ids hids
    rw [path?_eq_segments?, hids, Option.map_some] at hs
    cases hs
    cases ids with
    | nil => exact hdown
    | cons id ids =>
        have hid := hall id List.mem_cons_self
        rw [find?, if_neg (joinPath_ne_empty hid.1 ids),
          splitPath_joinPath (List.cons_ne_nil id ids) fun i hi => (hall i hi).2]
        exact hdown

end IsTree

namespace SameShape

theorem childNamed?_eq (hs : p.SameShape q) (hchildren : d.children = c.children) (id : String) :
    q.childNamed? d id = p.childNamed? c id := by
  have hplace : ∀ (r : Page) (k : Handle), (r.component? k).any (·.id == id) =
      ((r.component? k).map Component.place).any (·.1 == id) := by
    intro r k
    cases r.component? k <;> rfl
  have hid : (fun k => (q.component? k).any (·.id == id)) =
      fun k => (p.component? k).any (·.id == id) := by
    funext k
    rw [hplace, hplace, hs k]
  rw [childNamed?, childNamed?, hchildren, hid]

theorem descend?_eq (hs : p.SameShape q) (h : Handle) (ids : List String) :
    q.descend? h ids = p.descend? h ids := by
  induction ids generalizing h with
  | nil => rfl
  | cons id ids ih =>
      cases hc : p.component? h with
      | none =>
          have hnone : q.component? h = none := by
            have hh := hs h
            rw [hc, Option.map_none] at hh
            exact Option.map_eq_none_iff.1 hh.symm
          simp only [descend?, hc, hnone]
      | some c =>
          obtain ⟨d, hd, -, -, hchildren⟩ := hs.exists_component hc
          simp only [descend?, hc, hd, hs.childNamed?_eq hchildren, ih]

theorem find?_eq (hs : p.SameShape q) (path : String) : q.find? path = p.find? path := by
  rw [find?, find?, hs.descend?_eq]

theorem path?_eq (hs : p.SameShape q) (h : Handle) : q.path? h = p.path? h := by
  have hline := lineage?_congr (f := Component.place) (·.2.1) (fun _ => rfl) hs h
  have hids : ∀ r : Page, r.path? h =
      ((r.lineage? h).map (·.map fun e => (e.1, e.2.place))).map fun line =>
        joinPath (line.dropLast.map (·.2.1)).reverse := by
    intro r
    rw [path?, Option.map_map]
    congr 1
    funext line
    simp [Component.place, Function.comp_def]
  rw [hids, hids, hline]

end SameShape

end PageListeners.Page
