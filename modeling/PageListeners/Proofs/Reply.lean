import PageListeners.Proofs.Dispatch
import PageListeners.Proofs.Page.MarkupIds

/-!
# What a reply shows

A handler marks components by their handles, one or many at a time and as often as it likes, whether
the handles are live or not. The reply names those that are live on the page, in the order in which
they were first marked. No two of them have one markup id, so the client is told each element once.
-/

namespace PageListeners

namespace Draft

inductive Call where
  | mark (h : Handle)
  | markAll (hs : List Handle)
  | appendScript (script : String)
  | changeParameters (f : Parameters → Parameters)

namespace Call

def run (d : Draft) : Call → Draft
  | mark h => d.mark h
  | markAll hs => d.markAll hs
  | appendScript script => d.appendScript script
  | changeParameters f => { d with parameters := f d.parameters }

def handles : Call → List Handle
  | mark h => [h]
  | markAll hs => hs
  | appendScript _ => []
  | changeParameters _ => []

end Call

/-- The draft has marked the handles of `hs`, each where it first came up. -/
structure HasMarked (d : Draft) (hs : List Handle) : Prop where
  mem_iff : ∀ h, h ∈ d.marked ↔ h ∈ hs
  inOrder : d.marked.Pairwise fun g h => hs.idxOf g < hs.idxOf h

variable {d : Draft} {h : Handle} {hs gs : List Handle}

theorem hasMarked_nil (hd : d.marked = []) : d.HasMarked [] where
  mem_iff h := by rw [hd]
  inOrder := by
    rw [hd]
    exact List.Pairwise.nil

namespace HasMarked

theorem nodup (hd : d.HasMarked hs) : d.marked.Nodup := by
  apply hd.inOrder.imp
  rintro g h hlt rfl
  exact Nat.lt_irrefl _ hlt

theorem mark (hd : d.HasMarked hs) (h : Handle) : (d.mark h).HasMarked (hs ++ [h]) := by
  -- the old handles keep their places when another one comes behind them
  have hplaces : d.marked.Pairwise fun g k => (hs ++ [h]).idxOf g < (hs ++ [h]).idxOf k := by
    apply hd.inOrder.imp_of_mem
    intro g k hg hk hlt
    rwa [List.idxOf_append_of_mem ((hd.mem_iff g).1 hg),
      List.idxOf_append_of_mem ((hd.mem_iff k).1 hk)]
  unfold Draft.mark
  split
  · next hold =>
    refine ⟨?_, hplaces⟩
    intro k
    rw [hd.mem_iff, List.mem_append, List.mem_singleton]
    constructor
    · exact Or.inl
    · rintro (hk | rfl)
      · exact hk
      · exact (hd.mem_iff k).1 hold
  · next hnew =>
    refine ⟨?_, ?_⟩
    · intro k
      simp only [List.mem_append, hd.mem_iff]
    · refine List.pairwise_append.2 ⟨hplaces, List.pairwise_singleton .., ?_⟩
      intro g hg k hk
      rw [List.mem_singleton.1 hk, List.idxOf_append_of_mem ((hd.mem_iff g).1 hg),
        List.idxOf_append_of_notMem (mt (hd.mem_iff h).2 hnew)]
      exact Nat.lt_add_right _ (List.idxOf_lt_length_of_mem ((hd.mem_iff g).1 hg))

theorem markAll (hd : d.HasMarked hs) (gs : List Handle) :
    (d.markAll gs).HasMarked (hs ++ gs) := by
  unfold Draft.markAll
  induction gs generalizing d hs with
  | nil => rwa [List.append_nil]
  | cons g gs ih =>
      rw [List.append_cons]
      exact ih (hd.mark g)

theorem of_marked_eq {d' : Draft} (hd : d.HasMarked hs) (he : d'.marked = d.marked) :
    d'.HasMarked hs where
  mem_iff := he ▸ hd.mem_iff
  inOrder := he ▸ hd.inOrder

theorem run (hd : d.HasMarked hs) (call : Call) : (call.run d).HasMarked (hs ++ call.handles) := by
  cases call with
  | mark h => exact hd.mark h
  | markAll gs => exact hd.markAll gs
  | appendScript script =>
      rw [Call.handles, List.append_nil]
      exact hd.of_marked_eq rfl
  | changeParameters f =>
      rw [Call.handles, List.append_nil]
      exact hd.of_marked_eq rfl

theorem foldl (hd : d.HasMarked hs) (calls : List Call) :
    (calls.foldl Call.run d).HasMarked (hs ++ calls.flatMap Call.handles) := by
  induction calls generalizing d hs with
  | nil => rwa [List.flatMap_nil, List.append_nil]
  | cons call calls ih =>
      rw [List.flatMap_cons, ← List.append_assoc]
      exact ih (hd.run call)

end HasMarked

end Draft

namespace Page

variable {p q : Page} {settings : Settings} {query : String} {r : Reply}

theorem map_some_markupIds (p : Page) (d : Draft) :
    (p.reply d).markupIds.map some = (d.marked.filter p.isLive).map p.markupId? := by
  rw [reply]
  induction d.marked with
  | nil => rfl
  | cons h hs ih =>
      cases hc : p.component? h with
      | none =>
          have hdead : p.isLive h = false := by rw [isLive, hc, Option.isSome_none]
          have hunknown : p.markupId? h = none := by rw [markupId?, hc, Option.map_none]
          rw [List.filterMap_cons_none hunknown, List.filter_cons_of_neg (by simp [hdead]), ih]
      | some c =>
          have hlive : p.isLive h = true := by rw [isLive, hc, Option.isSome_some]
          have hknown : p.markupId? h = some c.markupId := by rw [markupId?, hc, Option.map_some]
          rw [List.filterMap_cons_some hknown, List.filter_cons_of_pos hlive, List.map_cons,
            List.map_cons, ih, hknown]

theorem ReachableBy.nodup_markupIds {allowed : Operation → Prop} {d : Draft} {hs : List Handle}
    (hp : ReachableBy allowed p) (hd : d.HasMarked hs) : (p.reply d).markupIds.Nodup := by
  refine List.Nodup.filterMap ?_ hd.nodup
  intro g h m hg hh
  exact hp.eq_of_markupId? hg hh

/-- Whatever calls the handler of a request makes, the reply names exactly the live ones among the
components that it marks, in the order of their first marking and none twice. -/
theorem Reachable.dispatch_shows (hp : p.Reachable)
    (hr : (Edit.dispatch settings query).apply p = (.ok r, q)) :
    (∃ h index l, p.Admits settings (.ofQuery query) h index l) ∧
    ∀ h index l, p.Admits settings (.ofQuery query) h index l →
      let fresh : Draft := { parameters := settings.unreserved (.ofQuery query) }
      ∀ calls : List Draft.Call, l.handler fresh = calls.foldl Draft.Call.run fresh →
        let marks := calls.flatMap Draft.Call.handles
        ∃ shown : List Handle, (∀ g, g ∈ shown ↔ g ∈ marks ∧ p.isLive g = true) ∧
          shown.Pairwise (fun g k => marks.idxOf g < marks.idxOf k) ∧
          r.markupIds.map some = shown.map p.markupId? ∧ r.markupIds.Nodup := by
  have ht : p.IsTree := hp.isTree
  rw [Edit.apply_dispatch] at hr
  constructor
  · cases hl : p.authorize settings (.ofQuery query) with
    | error e => simp [hl] at hr
    | ok l =>
        obtain ⟨h, index, hadmits⟩ := ht.authorize_eq_ok_iff_admits.1 hl
        exact ⟨h, index, l, hadmits⟩
  · intro h index l hadmits fresh calls hcalls marks
    rw [ht.authorize_eq_ok_iff_admits.2 ⟨h, index, hadmits⟩] at hr
    have hreply : r = p.reply (calls.foldl Draft.Call.run fresh) := by
      rw [← hcalls]
      exact (Except.ok.inj (congrArg Prod.fst hr)).symm
    have hmarked : (calls.foldl Draft.Call.run fresh).HasMarked marks :=
      (Draft.hasMarked_nil rfl).foldl calls
    refine ⟨(calls.foldl Draft.Call.run fresh).marked.filter p.isLive, ?_, ?_, ?_, ?_⟩
    · intro g
      rw [List.mem_filter, hmarked.mem_iff]
    · exact hmarked.inOrder.filter _
    · rw [hreply, map_some_markupIds]
    · rw [hreply]
      exact hp.nodup_markupIds hmarked

def redrawListener : Listener :=
  { event := "change", stateless := true,
    handler := fun d => ((d.mark 2).markAll [3, 9, 2, 1]).mark 3 }

theorem sample_dispatch_shows :
    let p := [Operation.addComponent 1 "reset", .removeComponent 3,
      .attach 2 (.listener redrawListener) ⟨"change", rfl⟩].foldl Operation.run sample
    ∃ r q, (Edit.dispatch {} "_listener=form%3Asave%3A1").apply p = (.ok r, q) ∧
      r.markupIds = ["save_2", "form_1"] ∧
      ∃ shown : List Handle,
        (∀ g, g ∈ shown ↔ g ∈ [2, 3, 9, 2, 1, 3] ∧ p.isLive g = true) ∧
        r.markupIds.map some = shown.map p.markupId? := by
  intro p
  have hp : p.Reachable := ReachableBy.foldl sample_reachable fun _ _ => trivial
  have hpath : p.path? 2 = some "form:save" := by decide +kernel
  have hopen : p.isVisible 2 = true ∧ p.isEnabled 2 = true := by decide +kernel
  have hc : ∃ c, p.component? 2 = some c ∧
      c.behaviors = [.listener saveListener, .listener redrawListener] := ⟨_, rfl, rfl⟩
  obtain ⟨c, hc, hbehaviors⟩ := hc
  have htext : (Parameters.ofQuery "_listener=form%3Asave%3A1").get? "_listener" =
      some "form:save:1" := by decide +kernel
  have hpage : (Parameters.ofQuery "_listener=form%3Asave%3A1").get? "_page" = none := by
    decide +kernel
  have hadmits : p.Admits {} (.ofQuery "_listener=form%3Asave%3A1") 2 1 redrawListener :=
    ⟨⟨_, _, htext, hpath, rfl⟩, (hp.isTree.open_upward_iff hc).2 hopen,
      ⟨c, hc, by rw [hbehaviors]; rfl⟩, Or.inr ⟨hpage, isStateless_iff.1 (by decide +kernel)⟩⟩
  have hr : (Edit.dispatch {} "_listener=form%3Asave%3A1").apply p = _ := Edit.apply_dispatch ..
  rw [hp.isTree.authorize_eq_ok_iff_admits.2 ⟨2, 1, hadmits⟩] at hr
  obtain ⟨shown, hmem, -, hids, -⟩ := (hp.dispatch_shows hr).2 2 1 _ hadmits
    [.mark 2, .markAll [3, 9, 2, 1], .mark 3] rfl
  exact ⟨_, _, hr, by decide +kernel, shown, hmem, hids⟩

end Page

end PageListeners
