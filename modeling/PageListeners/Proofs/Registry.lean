import PageListeners.Proofs.Entries
import PageListeners.Registry

/-!
# Registries without idle entries

Registering and unregistering keep one entry for each event that is counted and none for the others.
The entries of such a registry are exactly the counts that are not zero.
-/

namespace PageListeners

namespace Registry

variable {r : Registry} {n : Nat}

structure IsTight (r : Registry) : Prop where
  nodup : (r.entries.map (·.1)).Nodup
  pos : ∀ x ∈ r.entries, 0 < x.2

theorem isTight_empty : IsTight {} where
  nodup := List.nodup_nil
  pos x hx := by cases hx

namespace IsTight

theorem erase (hr : r.IsTight) (event : String) : (r.erase event).IsTight where
  nodup := nodup_keys_filter hr.nodup _
  pos x hx := hr.pos x (List.mem_of_mem_filter hx)

theorem set (hr : r.IsTight) (event : String) (hn : 0 < n) : (r.set event n).IsTight where
  nodup := nodup_keys_cons_filter hr.nodup event
  pos x hx := by
    rcases List.mem_cons.1 hx with rfl | hold
    · exact hn
    · exact (hr.erase event).pos x hold

theorem register (hr : r.IsTight) (event : String) : (r.register event).IsTight :=
  hr.set event (Nat.succ_pos _)

theorem unregister (hr : r.IsTight) (event : String) : (r.unregister event).IsTight := by
  rw [Registry.unregister]
  split
  · next hmore => exact hr.set event (Nat.sub_pos_of_lt hmore)
  · exact hr.erase event

theorem mem_entries_iff (hr : r.IsTight) {event : String} :
    (event, n) ∈ r.entries ↔ n = r.count event ∧ 0 < n := by
  rw [← lookup_eq_some_iff_mem_of_nodup hr.nodup, count]
  constructor
  · intro hn
    have hmem := (lookup_eq_some_iff_mem_of_nodup hr.nodup).1 hn
    exact ⟨by rw [hn, Option.getD_some], hr.pos _ hmem⟩
  · rintro ⟨rfl, hpos⟩
    cases hlookup : r.entries.lookup event with
    | none =>
        rw [hlookup] at hpos
        cases hpos
    | some m => rfl

theorem perm_of_count_eq {s : Registry} (hr : r.IsTight) (hs : s.IsTight)
    (hcount : ∀ event, s.count event = r.count event) : s.entries.Perm r.entries := by
  refine (List.perm_ext_iff_of_nodup hs.nodup.of_map hr.nodup.of_map).2 ?_
  rintro ⟨event, n⟩
  rw [hs.mem_entries_iff, hr.mem_entries_iff, hcount]

end IsTight

end Registry

end PageListeners
