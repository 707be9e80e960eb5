import PageListeners.Behavior
import PageListeners.Proofs.Text.LowerCase

/-!
# Names of events

A text names an event unless nothing is left of it without its `on`, and it does so for a delegator
as for a listener. The names of events have no capital letter of ASCII. So a delegator handles the
events of its own name only, although it compares names without regard to the case of ASCII. An `on`
before a name, in whatever case, counts for nothing, except that it stands before the first sigma of
the name.
-/

namespace PageListeners

theorem dropOn_eq_iff {cs ds : List Char} :
    dropOn cs = ds ↔ cs = ['o', 'n'] ++ ds ∨ cs = ds ∧ ¬ ['o', 'n'] <+: ds := by
  unfold dropOn
  split
  · next cs =>
    constructor
    · rintro rfl
      exact Or.inl rfl
    · rintro (hds | ⟨rfl, hplain⟩)
      · cases hds
        rfl
      · exact absurd (List.prefix_append ['o', 'n'] cs) hplain
  · next hcs =>
    constructor
    · rintro rfl
      refine Or.inr ⟨rfl, ?_⟩
      rintro ⟨ds, rfl⟩
      exact hcs ds rfl
    · rintro (rfl | ⟨rfl, -⟩)
      · exact absurd rfl (hcs ds)
      · rfl

theorem dropOn_eq_self {cs : List Char} (hcs : ¬ ['o', 'n'] <+: cs) : dropOn cs = cs :=
  dropOn_eq_iff.2 (Or.inr ⟨rfl, hcs⟩)

theorem eventName_eq_ok {event : String} {cs : List Char} (he : event ≠ "") (hcs : cs ≠ [])
    (hname : dropOn (Text.lowerFrom [] event.toList) = cs) :
    eventName event = .ok (String.ofList cs) := by
  rw [eventName, if_neg he, Text.toList_lowerCase, hname]
  cases cs with
  | nil => exact absurd rfl hcs
  | cons c cs => rfl

/-- What an event is called: its lower case, without the `on` that this may begin with. -/
structure IsNameOf (name event : String) : Prop where
  nonempty : name ≠ ""
  lower : Text.lowerCase event = "on" ++ name ∨
    Text.lowerCase event = name ∧ ¬ ['o', 'n'] <+: name.toList

section

variable {event name : String}

theorem IsNameOf.isSmall (hn : IsNameOf name event) : Text.IsSmall name := by
  have hmem : ∀ a ∈ name.toList, a ∈ Text.lowerFrom [] event.toList := by
    intro a ha
    rw [← Text.toList_lowerCase]
    rcases hn.lower with hon | ⟨hplain, -⟩
    · rw [hon, String.toList_append]
      exact List.mem_append_right _ ha
    · rw [hplain]
      exact ha
  have hsmall : ∀ a ∈ name.toList, a.toLower = a := fun a ha =>
    Text.toLower_of_mem_lowerFrom (hmem a ha)
  rw [Text.IsSmall, List.map_congr_left hsmall, List.map_id']

theorem isNameOf_iff :
    IsNameOf name event ↔ name ≠ "" ∧ dropOn (Text.lowerCase event).toList = name.toList := by
  have hon : (Text.lowerCase event).toList = ['o', 'n'] ++ name.toList ↔
      Text.lowerCase event = "on" ++ name := by
    rw [← String.toList_inj, String.toList_append]
    rfl
  rw [dropOn_eq_iff, hon, String.toList_inj]
  exact ⟨fun hn => ⟨hn.nonempty, hn.lower⟩, fun hn => ⟨hn.1, hn.2⟩⟩

theorem dropOn_lowerCase_ne_nil (he : event ≠ "") (hon : Text.lowerCase event ≠ "on") :
    dropOn (Text.lowerCase event).toList ≠ [] := by
  intro hnil
  rcases dropOn_eq_iff.1 hnil with hbare | ⟨hempty, -⟩
  · exact hon (String.toList_inj.1 hbare)
  · rw [Text.toList_lowerCase] at hempty
    exact Text.lowerFrom_ne_nil [] (mt String.toList_eq_nil_iff.1 he) hempty

/-- Nothing is left of a text that is empty or `on` in lower case, and every other text has a
name. -/
theorem eventName_cases (event : String) :
    if event = "" ∨ Text.lowerCase event = "on" then
      ∃ cause, eventName event = .error (.invalidArgument cause)
    else ∃ name, IsNameOf name event ∧ eventName event = .ok name := by
  by_cases he : event = ""
  · rw [if_pos (Or.inl he), eventName, if_pos he]
    exact ⟨.emptyEvent, rfl⟩
  by_cases hon : Text.lowerCase event = "on"
  · rw [if_pos (Or.inr hon), eventName, if_neg he, hon]
    exact ⟨.bareEvent event, rfl⟩
  have hne := dropOn_lowerCase_ne_nil he hon
  have hn : IsNameOf (String.ofList (dropOn (Text.lowerCase event).toList)) event :=
    isNameOf_iff.2 ⟨mt String.ofList_eq_empty_iff.1 hne, String.toList_ofList.symm⟩
  rw [if_neg (not_or.2 ⟨he, hon⟩)]
  refine ⟨_, hn, eventName_eq_ok he hne ?_⟩
  rw [Text.toList_lowerCase]

theorem eventName_eq_ok_iff : eventName event = .ok name ↔ IsNameOf name event := by
  constructor
  · intro h
    have hcases := eventName_cases event
    split at hcases
    · obtain ⟨cause, hrefused⟩ := hcases
      rw [h] at hrefused
      cases hrefused
    · obtain ⟨name', hn, hnamed⟩ := hcases
      rw [h] at hnamed
      cases hnamed
      exact hn
  · intro hn
    obtain ⟨hne, hname⟩ := isNameOf_iff.1 hn
    have he : event ≠ "" := by
      rintro rfl
      exact hne (String.toList_eq_nil_iff.1 hname.symm)
    rw [Text.toList_lowerCase] at hname
    rw [eventName_eq_ok he (mt String.toList_eq_nil_iff.1 hne) hname, String.ofList_toList]

theorem isSmall_of_eventName (h : eventName event = .ok name) : Text.IsSmall name :=
  (eventName_eq_ok_iff.1 h).isSmall

end

/-- Names are compared as they are. -/
theorem Delegator.handles_iff {d : Delegator} {event e f : String} (hd : eventName e = .ok d.event)
    (he : eventName f = .ok event) : d.handles event = true ↔ d.event = event := by
  constructor
  · exact Text.eq_of_isSmall (isSmall_of_eventName hd) (isSmall_of_eventName he)
  · rintro rfl
    exact beq_self_eq_true _

theorem Delegator.handles_congr {e f : String} (hsame : Text.sameButAsciiCase e f = true)
    (d : Delegator) : d.handles e = d.handles f := by
  rw [Text.sameButAsciiCase, beq_iff_eq] at hsame
  rw [handles, handles, Text.sameButAsciiCase, Text.sameButAsciiCase, hsame]

theorem Delegator.new_eq_ok_iff {d : Delegator} {e : String} :
    Delegator.new e = .ok d ↔ eventName e = .ok d.event := by
  rw [new]
  cases eventName e with
  | error cause => constructor <;> intro h <;> cases h
  | ok name =>
    constructor
    · intro h
      cases h
      rfl
    · intro h
      cases h
      rfl

theorem Listener.new_eq_ok_iff {l : Listener} {e : String} {handler : Handler} :
    Listener.new e handler = .ok l ↔
      ∃ name, eventName e = .ok name ∧ l = { event := name, handler := handler } := by
  rw [new, checked]
  cases eventName e with
  | error cause =>
    constructor
    · intro h
      cases h
    · rintro ⟨name, h, -⟩
      cases h
  | ok name =>
    constructor
    · intro h
      cases h
      exact ⟨name, rfl, rfl⟩
    · rintro ⟨name, h, rfl⟩
      cases h
      rfl

/-- A text makes a delegator and a listener of one name, or it makes neither, being empty or only
an `on`. A delegator handles a listener exactly when the two have the same name: no name has a
capital letter that the comparison could read over. -/
theorem behaviors_match_by_name (a b : String) (handler : Handler) :
    (if a = "" ∨ Text.lowerCase a = "on" then
      ∃ cause, Delegator.new a = .error (.invalidArgument cause) ∧
        Listener.new a handler = .error (.invalidArgument cause)
    else
      ∃ name, IsNameOf name a ∧ Delegator.new a = .ok { event := name } ∧
        Listener.new a handler = .ok { event := name, handler := handler }) ∧
    ∀ d l, Delegator.new a = .ok d → Listener.new b handler = .ok l →
      (d.handles l.event = true ↔ d.event = l.event) := by
  constructor
  · have hcases := eventName_cases a
    split at hcases
    · next hbare =>
      obtain ⟨cause, hrefused⟩ := hcases
      rw [if_pos hbare, Delegator.new, Listener.new, Listener.checked, hrefused]
      exact ⟨cause, rfl, rfl⟩
    · next hnamed =>
      obtain ⟨name, hn, hname⟩ := hcases
      rw [if_neg hnamed]
      exact ⟨name, hn, Delegator.new_eq_ok_iff.2 hname, Listener.new_eq_ok_iff.2 ⟨name, hname, rfl⟩⟩
  · intro d l hd hl
    obtain ⟨name, hname, rfl⟩ := Listener.new_eq_ok_iff.1 hl
    exact Delegator.handles_iff (Delegator.new_eq_ok_iff.1 hd) hname

/-- The Kelvin sign is a `k` in lower case, but the dotted capital I is not an `i`. -/
theorem sample_behaviors_match_by_name :
    (∃ d l, Delegator.new "on\u212AeyUp" = .ok d ∧ Listener.new "KEYUP" id = .ok l ∧
      d.handles l.event = true ∧ d.event = l.event) ∧
    ∃ d l, Delegator.new "onİnput" = .ok d ∧ Listener.new "INPUT" id = .ok l ∧
      d.handles l.event = false ∧ d.event ≠ l.event := by
  have hkelvin : eventName "on\u212AeyUp" = .ok "keyup" :=
    eventName_eq_ok_iff.2 ⟨by decide, Or.inl (by decide +kernel)⟩
  have hkey : eventName "KEYUP" = .ok "keyup" :=
    eventName_eq_ok_iff.2 ⟨by decide, Or.inr (by decide +kernel)⟩
  have hdotted : eventName "onİnput" = .ok "i\u0307nput" :=
    eventName_eq_ok_iff.2 ⟨by decide, Or.inl (by decide +kernel)⟩
  have hinput : eventName "INPUT" = .ok "input" :=
    eventName_eq_ok_iff.2 ⟨by decide, Or.inr (by decide +kernel)⟩
  constructor
  · have hd : Delegator.new "on\u212AeyUp" = .ok { event := "keyup" } :=
      Delegator.new_eq_ok_iff.2 hkelvin
    have hl : Listener.new "KEYUP" id = .ok { event := "keyup", handler := id } :=
      Listener.new_eq_ok_iff.2 ⟨_, hkey, rfl⟩
    have hmatch := (behaviors_match_by_name "on\u212AeyUp" "KEYUP" id).2 _ _ hd hl
    exact ⟨_, _, hd, hl, hmatch.2 rfl, rfl⟩
  · have hd : Delegator.new "onİnput" = .ok { event := "i\u0307nput" } :=
      Delegator.new_eq_ok_iff.2 hdotted
    have hl : Listener.new "INPUT" id = .ok { event := "input", handler := id } :=
      Listener.new_eq_ok_iff.2 ⟨_, hinput, rfl⟩
    have hne : ("i\u0307nput" : String) ≠ "input" := by decide
    have hmatch := (behaviors_match_by_name "onİnput" "INPUT" id).2 _ _ hd hl
    exact ⟨_, _, hd, hl, Bool.eq_false_iff.2 (mt hmatch.1 hne), hne⟩

section

variable {on e : String}

/-- The two letters become small, and what follows them sees a cased letter before it. -/
theorem lowerFrom_on (hon : on ∈ ["on", "oN", "On", "ON"]) (cs : List Char) :
    Text.meetsCased on.toList.reverse = true ∧
      Text.lowerFrom [] (on.toList ++ cs) =
        'o' :: 'n' :: Text.lowerFrom on.toList.reverse cs := by
  simp only [List.mem_cons, List.not_mem_nil, or_false] at hon
  obtain rfl | rfl | rfl | rfl := hon <;> exact ⟨by decide +kernel, rfl⟩

theorem eventName_on_append (hon : on ∈ ["on", "oN", "On", "ON"]) (he : e ≠ "") :
    eventName (on ++ e) =
      .ok (String.ofList (Text.lowerFrom on.toList.reverse e.toList)) := by
  have hcs : e.toList ≠ [] := mt String.toList_eq_nil_iff.1 he
  refine eventName_eq_ok ?_ (Text.lowerFrom_ne_nil _ hcs) ?_
  · intro hempty
    exact he (String.append_eq_empty_iff.1 hempty).2
  · rw [String.toList_append, (lowerFrom_on hon e.toList).2]
    rfl

theorem eventName_eq_lowerCase (he : e ≠ "")
    (hsmall : ¬ ['o', 'n'] <+: (Text.lowerCase e).toList) :
    eventName e = .ok (Text.lowerCase e) := by
  have hcs : e.toList ≠ [] := mt String.toList_eq_nil_iff.1 he
  rw [Text.toList_lowerCase] at hsmall
  exact eventName_eq_ok he (Text.lowerFrom_ne_nil [] hcs) (dropOn_eq_self hsmall)

/-- A name behind an `on`, in whatever case the two letters are, is known by its lower case. The
exception is a name that begins with a capital sigma standing alone: behind the `n` the sigma is at
the end of a word, and so it gets its final form, which it does not have without the `on`. -/
theorem eventName_on (hon : on ∈ ["on", "oN", "On", "ON"]) (he : e ≠ "") :
    (Text.opensWithLoneSigma e.toList = false →
      eventName (on ++ e) = .ok (Text.lowerCase e) ∧
        (¬ ['o', 'n'] <+: (Text.lowerCase e).toList →
          Delegator.new (on ++ e) = Delegator.new e ∧
            ∀ handler, Listener.new (on ++ e) handler = Listener.new e handler)) ∧
    (Text.opensWithLoneSigma e.toList = true →
      ∃ front back, Text.lowerCase e = front ++ "σ" ++ back ∧
        eventName (on ++ e) = .ok (front ++ "ς" ++ back)) := by
  have hcased := (lowerFrom_on hon e.toList).1
  have hstart : Text.meetsCased [] = false := rfl
  have hsmall := @Text.lowerFrom_behind_cased _ _ e.toList hcased hstart
  have hname := eventName_on_append hon he
  constructor
  · intro hlone
    rw [hlone] at hsmall
    have hlower : eventName (on ++ e) = .ok (Text.lowerCase e) := by
      rw [hname, Text.lowerCase]
      exact congrArg (fun cs => Except.ok (String.ofList cs)) hsmall
    refine ⟨hlower, ?_⟩
    intro hplain
    have hsame : eventName (on ++ e) = eventName e := by
      rw [hlower, eventName_eq_lowerCase he hplain]
    refine ⟨?_, ?_⟩
    · rw [Delegator.new, Delegator.new, hsame]
    · intro handler
      rw [Listener.new, Listener.new, Listener.checked, Listener.checked, hsame]
  · intro hlone
    rw [hlone] at hsmall
    obtain ⟨front, back, hstart, hfinal⟩ := hsmall
    have hsplit : ∀ c, String.ofList (front ++ c :: back) =
        String.ofList front ++ String.singleton c ++ String.ofList back := by
      intro c
      rw [← String.toList_inj]
      simp
    refine ⟨String.ofList front, String.ofList back, ?_, ?_⟩
    · rw [Text.lowerCase, hstart, hsplit]
      rfl
    · rw [hname, hfinal, hsplit]
      rfl

end

/-- A delegator for the one spelling does not handle the listeners of the other. -/
theorem onSigma_keeps_final : eventName "onΣ" = .ok "ς" ∧
    eventName "onΣ" ≠ .ok (Text.lowerCase "Σ") ∧
    ∃ d l, Delegator.new "onΣ" = .ok d ∧ Listener.new "Σ" id = .ok l ∧
      d.handles l.event = false := by
  have hlower : Text.lowerCase "Σ" = "σ" := by decide +kernel
  have hfinal : eventName "onΣ" = .ok "ς" :=
    eventName_eq_ok (by decide) (List.cons_ne_nil 'ς' []) (by decide +kernel)
  have hplain : eventName "Σ" = .ok "σ" :=
    eventName_eq_ok (by decide) (List.cons_ne_nil 'σ' []) (by decide +kernel)
  refine ⟨hfinal, ?_, ⟨"ς"⟩, { event := "σ", handler := id }, ?_, ?_, by decide⟩
  · rw [hfinal, hlower, ne_eq, Except.ok.injEq]
    decide
  · rw [Delegator.new, hfinal]
    rfl
  · rw [Listener.new, Listener.checked, hplain]
    rfl

/-- A sigma behind other letters is final or not by these alone. -/
theorem sample_eventName_on :
    ("oN" ∈ ["on", "oN", "On", "ON"] ∧ "ΟΔΟΣ" ≠ "" ∧
      eventName ("oN" ++ "ΟΔΟΣ") = .ok (Text.lowerCase "ΟΔΟΣ") ∧ Text.lowerCase "ΟΔΟΣ" = "οδος") ∧
    ∃ front back, Text.lowerCase ".Σ" = front ++ "σ" ++ back ∧
      eventName ("oN" ++ ".Σ") = .ok (front ++ "ς" ++ back) := by
  have hon : "oN" ∈ ["on", "oN", "On", "ON"] := by decide
  have hword : "ΟΔΟΣ" ≠ "" := by decide
  have hsigma : ".Σ" ≠ "" := by decide
  exact ⟨⟨hon, hword, ((eventName_on hon hword).1 (by decide +kernel)).1, by decide +kernel⟩,
    (eventName_on hon hsigma).2 (by decide +kernel)⟩

end PageListeners
