import PageListeners.Head

/-!
# The end of a script element

A script element ends at the first `</` of its text, so no script may hold one. Escaping leaves no
`</` behind, and the scan that replaces cannot make a new one: what it writes starts with the
character that it read. The tag in front of the scripts is as if it were escaped with them, and
`</` in the text of a head is then found where its closing tag is and nowhere else.
-/

namespace PageListeners

variable {cs : List Char}

/-- How a character is written that comes after `before`. -/
def guarded (before : Option Char) (c : Char) : List Char :=
  if before = some '<' ∧ c = '/' then ['\\', c] else [c]

theorem closing_infix_cons {c : Char} :
    ['<', '/'] <:+: c :: cs ↔ c = '<' ∧ cs.head? = some '/' ∨ ['<', '/'] <:+: cs := by
  rw [List.infix_cons_iff, List.cons_prefix_cons]
  cases cs with
  | nil => simp
  | cons d cs => rw [List.cons_prefix_cons, List.head?_cons, Option.some_inj, @eq_comm _ d,
      @eq_comm _ c, and_iff_left List.nil_prefix]

theorem head?_escapeChars (cs : List Char) : (escapeChars cs).head? = cs.head? := by
  fun_cases escapeChars cs <;> rfl

/-- Where the scan takes a `<` alone, no slash follows. -/
theorem head?_ne_slash {c : Char} (hc : ∀ rest, c = '<' → cs = '/' :: rest → False)
    (hlt : c = '<') : cs.head? ≠ some '/' := by
  intro hslash
  obtain ⟨rest, hrest⟩ := List.head?_eq_some_iff.1 hslash
  exact hc rest hlt hrest

theorem not_closing_infix_escapeChars (cs : List Char) : ¬ ['<', '/'] <:+: escapeChars cs := by
  fun_induction escapeChars cs with
  | case1 cs ih =>
    simpa [closing_infix_cons] using ih
  | case2 c cs hc ih =>
    rw [closing_infix_cons, head?_escapeChars]
    rintro (⟨hlt, hslash⟩ | hin)
    · exact head?_ne_slash hc hlt hslash
    · exact ih hin
  | case3 => simp

theorem escapeChars_eq_self (h : ¬ ['<', '/'] <:+: cs) : escapeChars cs = cs := by
  fun_induction escapeChars cs with
  | case1 cs => exact absurd (List.prefix_append ['<', '/'] cs).isInfix h
  | case2 c cs _ ih => rw [ih fun hin => h (closing_infix_cons.2 (.inr hin))]
  | case3 => rfl

/-- Where the scan stands behind a `<` it is at its end or at another character than `/`. -/
theorem escapeChars_eq_flatten (before : Option Char)
    (h : before = some '<' → cs.head? ≠ some '/') :
    escapeChars cs = (List.zipWith guarded (before :: cs.map some) cs).flatten := by
  fun_induction escapeChars cs generalizing before with
  | case1 cs ih => simp [guarded, ih (some '/') (by simp)]
  | case2 c cs hc ih =>
    have hnext : some c = some '<' → cs.head? ≠ some '/' :=
      fun hlt => head?_ne_slash hc (Option.some.inj hlt)
    have hwritten : guarded before c = [c] := if_neg fun ⟨hb, hs⟩ => h hb (congrArg some hs)
    rw [ih (some c) hnext, List.map_cons, List.zipWith_cons_cons, List.flatten_cons, hwritten]
    rfl
  | case3 => rfl

/-- Two texts without `</` around one: that one is the only one. -/
theorem append_closing_eq_iff {front back a b : List Char} (hf : ¬ ['<', '/'] <:+: front)
    (hb : ¬ ['<', '/'] <:+: back) :
    front ++ '<' :: '/' :: back = a ++ '<' :: '/' :: b ↔ a = front ∧ b = back := by
  constructor
  · intro h
    obtain ⟨between, ha, hrest⟩ | ⟨between, hfront, hrest⟩ := List.append_eq_append_iff.1 h
    · match between, hrest with
      | [], hrest => simpa [ha, eq_comm] using hrest
      | [_], hrest => simp at hrest
      | _ :: _ :: rest, hrest =>
        simp only [List.cons_append, List.cons.injEq] at hrest
        exact absurd ⟨rest, b, by simp [hrest.2.2]⟩ hb
    · match between, hrest with
      | [], hrest => simpa [hfront] using hrest
      | [_], hrest => simp at hrest
      | _ :: _ :: rest, hrest =>
        simp only [List.cons_append, List.cons.injEq] at hrest
        exact absurd ⟨a, rest, by simp [hfront, ← hrest.1, ← hrest.2.1]⟩ hf
  · rintro ⟨rfl, rfl⟩
    rfl

theorem escapeScript_ne (s a b : String) : escapeScript s ≠ a ++ "</" ++ b := by
  intro h
  refine not_closing_infix_escapeChars s.toList ⟨a.toList, b.toList, ?_⟩
  simpa [escapeScript] using (congrArg String.toList h).symm

theorem escapeScript_escapeScript (s : String) :
    escapeScript (escapeScript s) = escapeScript s := by
  simp [escapeScript, escapeChars_eq_self (not_closing_infix_escapeChars s.toList)]

theorem toList_escapeScript (s : String) :
    (escapeScript s).toList =
      (List.zipWith guarded (none :: s.toList.map some) s.toList).flatten := by
  rw [escapeScript, String.toList_ofList, escapeChars_eq_flatten none (by simp)]

theorem escapeScript_append_closingTag_eq_iff {s a b : String} :
    escapeScript s ++ "</script>" = a ++ "</" ++ b ↔ a = escapeScript s ∧ b = "script>" := by
  have hback : ¬ ['<', '/'] <:+: ['s', 'c', 'r', 'i', 'p', 't', '>'] := by decide
  have honly := append_closing_eq_iff (a := a.toList) (b := b.toList)
    (not_closing_infix_escapeChars s.toList) hback
  simp only [← String.toList_inj, String.toList_append, escapeScript, String.toList_ofList,
    List.append_assoc]
  exact honly

namespace Head

variable {h : Head} {settings : Settings}

theorem html_eq (hi : h.items ≠ []) (hs : settings.escapeScripts = true) :
    h.html settings = escapeScript ("<script type=\"text/javascript\">\n" ++
      (scriptLines h.plainScripts ++ readyHook settings h.readyScripts)) ++ "</script>" := by
  have hne : h.isEmpty = false := by simpa [isEmpty] using hi
  have htag : ∀ text : String, "<script type=\"text/javascript\">\n" ++ escapeScript text =
      escapeScript ("<script type=\"text/javascript\">\n" ++ text) := by
    intro text
    rw [← String.toList_inj]
    simp [escapeScript, escapeChars]
  rw [html, hne, if_neg Bool.false_ne_true, body, if_pos hs, htag]

/-- In the text of a head `</` stands once, where the closing tag starts. What is escaped has no
`</`, stays as it is when it is escaped again, and has a backslash more for every `/` behind a
`<`. -/
theorem html_closes_once (hi : h.items ≠ []) (hs : settings.escapeScripts = true) :
    (∃ front, h.html settings = front ++ "</script>" ∧
      ∀ a b, h.html settings = a ++ "</" ++ b ↔ a = front ∧ b = "script>") ∧
    ∀ s, (∀ a b, escapeScript s ≠ a ++ "</" ++ b) ∧
      escapeScript (escapeScript s) = escapeScript s ∧
      (escapeScript s).toList =
        (List.zipWith guarded (none :: s.toList.map some) s.toList).flatten := by
  refine ⟨⟨_, html_eq hi hs, fun a b => ?_⟩, fun s => ⟨escapeScript_ne s,
    escapeScript_escapeScript s, toList_escapeScript s⟩⟩
  rw [html_eq hi hs]
  exact escapeScript_append_closingTag_eq_iff

/-- Scripts and a namespace that all try to close the element. -/
theorem sample_html_closes_once :
    ∃ front, (Head.mk [.ready "a</b<", .plain "</</script>"]).html { clientNamespace := "/<</" } =
      front ++ "</script>" ∧ ∀ a b, front ≠ a ++ "</" ++ b := by
  obtain ⟨⟨front, hfront, honly⟩, -⟩ :=
    @html_closes_once ⟨[.ready "a</b<", .plain "</</script>"]⟩ { clientNamespace := "/<</" }
      (List.cons_ne_nil _ _) rfl
  refine ⟨front, hfront, fun a b h => ?_⟩
  have htwice := (honly a (b ++ "</script>")).1 (by rw [hfront, h, String.append_assoc])
  have hlength : b.toList.length + 9 = 7 := by
    simpa using congrArg (·.toList.length) htwice.2
  omega

end Head

end PageListeners
